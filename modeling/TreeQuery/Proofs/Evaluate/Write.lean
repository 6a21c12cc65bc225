import TreeQuery.Proofs.Evaluate.Literals
import TreeQuery.Proofs.Forest.Reachable

namespace TreeQuery

/-- A change of a forest in steps. One that fails leaves what the steps before the failure have made
of the forest. -/
abbrev Change (α : Type) := EStateM EvalError Forest α

namespace Change

def look {α : Type} (f : Forest → Except EvalError α) : Change α := do
  match f (← get) with
  | .ok a => pure a
  | .error err => throw err

def attach (p : NodeId) (position : Option Nat) (n : NodeId) : Change Unit := do
  let F ← get
  if F.isAtOrAbove n p then throw (.tree (.cycle (F.name p) (F.name n)))
  else
    let count := F.roomBeside p n
    let position := position.getD count
    if count < position then throw (.tree (.positionOutOfRange (F.name p) position count))
    else do
      modify fun F => (F.untie n).2
      modify fun F => F.tie p position n

/-- Takes a child out of its place and puts another node there. -/
def exchange (n p : NodeId) (i : Nat) (c : NodeId) : Change Unit := do
  modify fun F => (F.untie n).2
  attach p (some i) c

/-- Gives a root the name and the value of another one, then its children one after the other. -/
def takeOver (n c : NodeId) : Change Unit := do
  modify fun F => F.setName n (F.name c)
  modify fun F => F.setValue n (F.value c)
  modify fun F => (F.untieChildren n).2
  let children ← modifyGet fun F => F.untieChildren c
  forM children fun child => attach n none child

def replace (n replacement : NodeId) : Change Unit := do
  let c ← modifyGet fun F => F.copy replacement
  let F ← get
  match F.parent n, F.position? n with
  | some p, some i => exchange n p i c
  | _, _ => takeOver n c

end Change

/-- A write through an entity, in steps. -/
def Entity.change (E : Evaluator) (e : Entity) (v : Value) : Change Unit :=
  match e.kind with
  | .name => do
    let name ← Change.look fun F => E.textOf F v
    modify fun F => F.setName e.node name
  | .value =>
    match e.convert with
    | some typeName => do
      let w ← Change.look fun F => E.convertTo F typeName v
      modify fun F => F.setValue e.node w
    | none => modify fun F => F.setValue e.node v
  | .node => do
    match ← Change.look fun F => E.convertTo F "node" v with
    | .null => modify fun F => (F.untie e.node).2
    | .node replacement => Change.replace e.node replacement
    | other => do throw (.conversion ⟨other.debug (← get), "node", .noNodeProduced⟩)
  | .count => throw (.readOnly .count)
  | .path => throw (.readOnly .path)

variable {F G H : Forest} {n p r c : NodeId}

namespace Change

def whole (F : Forest) : Except EvalError Forest → EStateM.Result EvalError Forest Unit
  | .ok G => .ok () G
  | .error err => .error err F

theorem run_attach (p : NodeId) (i : Option Nat) (n : NodeId) (F : Forest) :
    (attach p i n).run F = whole F ((F.attach p i n).mapError .tree) := by
  rw [attach, Forest.attach, EStateM.run_bind, EStateM.run_get]
  dsimp only
  by_cases habove : F.isAtOrAbove n p = true
  · rw [if_pos habove, if_pos habove]
    rfl
  · rw [if_neg habove, if_neg habove]
    by_cases hroom : F.roomBeside p n < i.getD (F.roomBeside p n)
    · rw [if_pos hroom, if_pos hroom]
      rfl
    · rw [if_neg hroom, if_neg hroom]
      rfl

theorem run_attach_of_ok {i : Option Nat} (h : F.attach p i n = .ok G) :
    (attach p i n).run F = .ok () G := by
  rw [run_attach, h]
  rfl

/-- Moves that are all made one after the other are made in these steps. -/
theorem run_forM_attach {cs : List NodeId} (h : cs.foldlM (fun F c => F.add n c) F = .ok G) :
    (forM cs fun c => attach n none c).run F = .ok () G := by
  induction cs generalizing F with
  | nil =>
    obtain rfl := Except.ok.inj h
    rfl
  | cons c cs ih =>
    rw [List.foldlM_cons] at h
    obtain ⟨H, hc, hcs⟩ := ok_of_bind h
    rw [List.forM_cons, EStateM.run_bind, run_attach_of_ok hc]
    exact ih hcs

theorem run_takeOver_of_ok
    (hH : (((F.setName n (F.name c)).setValue n (F.value c)).untieChildren n).2 = H)
    (h : (H.untieChildren c).1.foldlM (fun F child => F.add n child) (H.untieChildren c).2 =
      .ok G) : (takeOver n c).run F = .ok () G := by
  -- the value is taken from the forest in which `n` has its new name already
  have hvalue : (F.setName n (F.name c)).value c = F.value c :=
    Forest.field_update Node.value F n c fun _ => rfl
  simp only [takeOver, EStateM.run_bind, EStateM.run_modify, EStateM.run_modifyGet, hvalue, hH]
  exact run_forM_attach h

theorem run_replace_of_ok (h : F.replace n r = .ok G) : (replace n r).run F = .ok () G := by
  simp only [replace, EStateM.run_bind, EStateM.run_modifyGet, EStateM.run_get]
  rw [Forest.replace] at h
  cases hp : (F.copy r).2.parent n with
  | none =>
    simp only [hp] at h
    exact run_takeOver_of_ok rfl h
  | some p =>
    cases hi : (F.copy r).2.position? n with
    | none =>
      simp only [hp, hi] at h
      exact run_takeOver_of_ok rfl h
    | some i =>
      simp only [hp, hi] at h
      exact run_attach_of_ok h

theorem run_look_bind {α : Type} (f : Forest → Except EvalError α) (k : α → Change Unit)
    (F : Forest) : (look f >>= k).run F =
      match f F with
      | .ok a => (k a).run F
      | .error err => .error err F := by
  rw [EStateM.run_bind, look, EStateM.run_bind, EStateM.run_get]
  dsimp only
  cases f F <;> rfl

end Change

namespace Entity

variable {E : Evaluator} {e : Entity} {v : Value} {err : EvalError}

/-- The steps of a write come to what the write itself gives, and leave nothing half done. -/
theorem run_change (hF : F.WellFormed) (hn : F.contains e.node = true) (E : Evaluator) (v : Value) :
    (e.change E v).run F = Change.whole F (e.set E F v) := by
  rw [change, set]
  cases e.kind with
  | name =>
    dsimp only
    rw [Change.run_look_bind]
    cases E.textOf F v <;> rfl
  | value =>
    cases e.convert with
    | none => rfl
    | some typeName =>
      dsimp only
      rw [Change.run_look_bind]
      cases E.convertTo F typeName v <;> rfl
  | node =>
    dsimp only
    rw [Change.run_look_bind]
    cases E.convertTo F "node" v with
    | error err => rfl
    | ok w =>
      cases w with
      | node r =>
        -- the copy is new and the place that it is for is free, so no move is refused
        obtain ⟨G, hG, -⟩ := Forest.exists_replace hF hn r
        simp only [Change.run_replace_of_ok hG, bind, Except.bind, hG]
        rfl
      | _ => rfl
  | count => rfl
  | path => rfl

theorem fault_of_set (hF : F.WellFormed) (hn : F.contains e.node = true)
    (h : e.set E F v = .error err) : (∃ error, err = .conversion error) ∨
      err = .readOnly e.kind ∧ (e.kind = .count ∨ e.kind = .path) := by
  rw [set] at h
  cases hk : e.kind with
  | name =>
    rw [hk] at h
    exact .inl (Evaluator.conversion_of_convertTo (eq_error_of_map (eq_error_of_map h)))
  | value =>
    rw [hk] at h
    cases hc : e.convert with
    | none =>
      rw [hc] at h
      exact absurd h nofun
    | some typeName =>
      rw [hc] at h
      exact .inl (Evaluator.conversion_of_convertTo (eq_error_of_map h))
  | node =>
    rw [hk] at h
    rcases error_of_bind h with h | ⟨w, -, h⟩
    · exact .inl (Evaluator.conversion_of_convertTo h)
    · cases w with
      | null => exact absurd h nofun
      | node r =>
        -- no replacement is refused in a forest of trees
        obtain ⟨G, hG, -⟩ := Forest.exists_replace hF hn r
        dsimp only at h
        rw [hG] at h
        exact absurd h nofun
      | _ => exact .inl ⟨_, (Except.error.inj h).symm⟩
  | count =>
    rw [hk] at h
    exact .inr ⟨(Except.error.inj h).symm, .inl rfl⟩
  | path =>
    rw [hk] at h
    exact .inr ⟨(Except.error.inj h).symm, .inr rfl⟩

/-- A write through an entity has its effect or none: if it fails at any step, the forest is the one
from before. It fails if a value cannot be converted, and always if counts or paths are to be written;
no move that a replacement is made of is ever refused. -/
theorem change_is_whole (h : F.Reachable) (hn : F.contains e.node = true) (E : Evaluator)
    (v : Value) :
    (e.change E v).run F = Change.whole F (e.set E F v) ∧
    (∀ err G, (e.change E v).run F = .error err G → G = F ∧
      ((∃ error, err = .conversion error) ∨ err = .readOnly e.kind)) ∧
    ((∃ kind G, (e.change E v).run F = .error (.readOnly kind) G) ↔
      e.kind = .count ∨ e.kind = .path) := by
  have hF := h.wellFormed
  have hrun := run_change hF hn E v
  -- what can fail comes before the first change
  have hfault (err : EvalError) (G : Forest) (hr : (e.change E v).run F = .error err G) :
      e.set E F v = .error err ∧ G = F := by
    rw [hrun] at hr
    cases hset : e.set E F v with
    | ok H =>
      rw [hset] at hr
      exact absurd hr nofun
    | error err' =>
      rw [hset] at hr
      obtain ⟨rfl, rfl⟩ := EStateM.Result.error.inj hr
      exact ⟨rfl, rfl⟩
  refine ⟨hrun, fun err G hr => ?_, ⟨?_, fun hk => ?_⟩⟩
  · obtain ⟨hset, hG⟩ := hfault err G hr
    exact ⟨hG, (fault_of_set hF hn hset).imp_right And.left⟩
  · rintro ⟨kind, G, hr⟩
    rcases fault_of_set hF hn (hfault _ G hr).1 with ⟨error, herror⟩ | ⟨-, hk⟩
    · exact absurd herror nofun
    · exact hk
  · refine ⟨e.kind, F, ?_⟩
    rcases hk with hk | hk <;> rw [change, hk] <;> rfl

/-- A node is replaced by a copy of the one above it, and a number takes no node's place. -/
theorem change_is_whole_ancestor :
    let F := [Edit.create "a" .null, .create "b" (.node ⟨0⟩), .create "c" .null, .add ⟨0⟩ ⟨1⟩,
      .add ⟨1⟩ ⟨2⟩].foldl Edit.run {}
    let e : Entity := ⟨⟨2⟩, .node, none, 1⟩
    F.Reachable ∧ (∃ G, (e.change {} (.node ⟨0⟩)).run F = .ok () G ∧ G.children ⟨1⟩ = [⟨3⟩]) ∧
      ∃ err, (e.change {} (.integer 7)).run F = .error err F := by
  intro F e
  have hF : F.Reachable := Forest.Reachable.empty.foldl (by decide +kernel)
  have hn : F.contains e.node = true := by decide +kernel
  refine ⟨hF, ?_, ?_⟩
  · have hset : (e.set {} F (.node ⟨0⟩)).toOption.map (fun G => G.children ⟨1⟩) = some [⟨3⟩] := by
      decide +kernel
    obtain ⟨hrun, -, -⟩ := change_is_whole hF hn {} (.node ⟨0⟩)
    cases h : e.set {} F (.node ⟨0⟩) with
    | error err =>
      rw [h] at hset
      exact absurd hset nofun
    | ok G =>
      rw [h] at hset hrun
      exact ⟨G, hrun, Option.some.inj hset⟩
  · have hset : (e.set {} F (.integer 7)).toOption.isNone = true := by decide +kernel
    obtain ⟨hrun, -, -⟩ := change_is_whole hF hn {} (.integer 7)
    cases h : e.set {} F (.integer 7) with
    | ok G =>
      rw [h] at hset
      exact absurd hset nofun
    | error err =>
      rw [h] at hrun
      exact ⟨err, hrun⟩

end Entity

end TreeQuery
