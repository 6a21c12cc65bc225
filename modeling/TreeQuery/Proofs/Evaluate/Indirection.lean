import TreeQuery.Proofs.Evaluate.Limit
import TreeQuery.Proofs.Evaluate.Recognition

namespace TreeQuery

variable {E : Evaluator} {F : Forest} {e : Expression} {m : Match} {n : NodeId}

namespace Match

theorem count_ofNodes (kind : Projection) (convert : Option String) (ns : List NodeId) :
    (ofNodes kind convert ns).count = ns.length := List.length_map _

theorem values_ofNodes_count (E : Evaluator) (F : Forest) (convert : Option String)
    (ns : List NodeId) : (ofNodes .count convert ns).values E F =
      .ok (List.replicate ns.length (.integer (Int64.ofNat ns.length))) := by
  rw [values, ofNodes, List.mapM_map]
  show ns.mapM (fun _ => (pure (.integer (Int64.ofNat ns.length)) : Except EvalError Value)) = _
  rw [List.mapM_pure, List.map_const']
  rfl

end Match

namespace Evaluator

theorem kind_of_evaluateWith {budget : Nat} (h : E.evaluateWith F budget e n = .ok m) :
    m.kind = e.kind := by
  cases budget with
  | zero => exact absurd h nofun
  | succ budget =>
    rw [evaluateWith] at h
    obtain ⟨chain, -, h⟩ := ok_of_bind h
    dsimp only at h
    split at h
    · rw [expand_eq] at h
      obtain ⟨parts, -, rfl⟩ := ok_of_map h
      rfl
    · obtain rfl := Except.ok.inj h
      rfl

/-- Only names and values are taken for expressions; what is read in another way stays what has been
selected. -/
theorem exists_ofNodes_of_evaluateWith {budget : Nat} (hname : e.kind ≠ .name)
    (hvalue : e.kind ≠ .value) (h : E.evaluateWith F budget e n = .ok m) :
    ∃ ns, m = Match.ofNodes e.kind e.convert ns := by
  cases budget with
  | zero => exact absurd h nofun
  | succ budget =>
    rw [evaluateWith] at h
    obtain ⟨chain, -, h⟩ := ok_of_bind h
    refine ⟨(chain.cursor F (.list [n])).drain F, ?_⟩
    have hconstants (ns : List NodeId) :
        ∀ x ∈ (Match.ofNodes e.kind e.convert ns).entities, reference? F x = none := by
      intro x hx
      obtain ⟨c, -, rfl⟩ := List.mem_map.1 hx
      cases hk : e.kind with
      | name => exact absurd hk hname
      | value => exact absurd hk hvalue
      | _ => rfl
    dsimp only at h
    rw [expand_of_constants (hconstants _)] at h
    split at h <;> exact (Except.ok.inj h).symm

theorem values_of_count {budget : Nat} (hk : e.kind = .count)
    (h : E.evaluateWith F budget e n = .ok m) :
    m.values E F = .ok (List.replicate m.count (.integer (Int64.ofNat m.count))) := by
  obtain ⟨ns, rfl⟩ := exists_ofNodes_of_evaluateWith (by simp [hk]) (by simp [hk]) h
  rw [hk, Match.values_ofNodes_count, Match.count_ofNodes]

theorem reduce_replicate_integer_iff (E : Evaluator) (F : Forest) (k : Nat) (i : Int64) :
    E.reduce F (List.replicate k (.integer i)) = .ok (.integer i) ↔ k = 1 := by
  match k with
  | 0 => exact ⟨fun h => absurd (Except.ok.inj h) nofun, nofun⟩
  | 1 => exact ⟨fun _ => rfl, fun _ => rfl⟩
  | k + 2 =>
    refine ⟨fun h => ?_, fun h => absurd h (by omega)⟩
    -- two numbers and more become a text, if they can be converted at all
    obtain ⟨text, -, h⟩ := ok_of_bind h
    obtain ⟨more, -, h⟩ := ok_of_bind h
    exact absurd (Except.ok.inj h) nofun

/-- The expression of the node at which it is evaluated, whose value is taken for one. -/
def ownValue : Expression := ⟨"@@?value", true, ⟨[], []⟩, .value, none⟩

theorem compile_ownValue : Expression.compile "@@?value" = .ok ownValue := rfl

theorem evaluateWith_ownValue (E : Evaluator) (F : Forest) (budget : Nat) (n : NodeId) :
    E.evaluateWith F (budget + 1) ownValue n =
      expand F (E.evaluateWith F budget) ⟨.value, none, [⟨n, .value, none, 1⟩]⟩ := rfl

theorem single_of_compile {text : String} (hcompile : Expression.compile text = .ok e)
    (hlikely : Expression.isLikely text = true) (E : Evaluator) (F : Forest) (n : NodeId) :
    E.single F (.string text) n = E.evaluate F e n >>= fun m => m.results E F >>= E.reduce F :=
  singleWith_of_compile hcompile hlikely E.budget n

theorem single_ownValue (E : Evaluator) (F : Forest) (n : NodeId) :
    E.single F (.string "@@?value") n =
      expand F (E.evaluateWith F E.maxDepth) ⟨.value, none, [⟨n, .value, none, 1⟩]⟩ >>=
        fun m => m.values E F >>= E.reduce F := by
  have hlikely : Expression.isLikely "@@?value" = true := by decide
  rw [single, singleWith_of_compile compile_ownValue hlikely, budget, evaluateWith_ownValue,
    expand_eq]
  cases [Entity.mk n .value none 1].mapM (replacement F (E.evaluateWith F E.maxDepth) none) <;> rfl

section Text
variable {text : String} (hn : F.value n = .string text)
include hn

theorem single_ownValue_of_constant (hlikely : Expression.isLikely text = false) :
    E.single F (.string "@@?value") n = E.single F (.string text) n := by
  have hx : ∀ x ∈ [Entity.mk n .value none 1], reference? F x = none := by
    intro x hx
    rw [List.mem_singleton.1 hx]
    show (F.value n).string?.filter Expression.isLikely = none
    rw [hn]
    exact Option.filter_some_neg hlikely
  have hvalues : Match.values E F ⟨.value, none, [⟨n, .value, none, 1⟩]⟩ = .ok [F.value n] := rfl
  rw [single_ownValue, expand_of_constants hx]
  show Match.values E F ⟨.value, none, [⟨n, .value, none, 1⟩]⟩ >>= E.reduce F = _
  rw [hvalues, hn, single, singleWith, valuesWith, hlikely]
  rfl

/-- An expression gives its entities to the reference, whose values are reduced as they are. -/
theorem single_ownValue_of_likely (hcompile : Expression.compile text = .ok e)
    (hlikely : Expression.isLikely text = true)
    (hdepth : ∀ limit, E.single F (.string "@@?value") n ≠ .error (.tooDeep limit)) :
    E.single F (.string "@@?value") n =
      E.evaluate F e n >>= fun m => m.values E F >>= E.reduce F := by
  have hx : (Entity.mk n .value none 1).unconverted F = some (.string text) := congrArg some hn
  have hsingle : E.single F (.string "@@?value") n =
      E.evaluateWith F E.maxDepth e n >>= fun m => m.values E F >>= E.reduce F := by
    rw [single_ownValue, expand_singleton hcompile hlikely _ hx]
    cases E.evaluateWith F E.maxDepth e n with
    | error err => rfl
    | ok m =>
      have hentities : m.entities.map (reconvert none) = m.entities := List.map_id m.entities
      show (Match.values E F ⟨_, _, m.entities.map (reconvert none)⟩ >>= _) = _
      rw [hentities]
      rfl
  have hlevel : CutOff (E.evaluateWith F E.maxDepth e n) (E.evaluate F e n) :=
    E.evaluateWith_cutOff F E.maxDepth E.maxDepth (Nat.le_succ E.maxDepth) e n
  rw [hsingle] at hdepth ⊢
  exact (hlevel.bind fun m => .refl _).eq_of_not_tooDeep hdepth

/-- Counted nodes give their number, and through a reference one such number for each of them. -/
theorem single_of_count (hcompile : Expression.compile text = .ok e)
    (hlikely : Expression.isLikely text = true)
    (hdepth : ∀ limit, E.single F (.string "@@?value") n ≠ .error (.tooDeep limit))
    (hk : e.kind = .count) (hm : E.evaluate F e n = .ok m) :
    E.single F (.string text) n = .ok (.integer (Int64.ofNat m.count)) ∧
      E.single F (.string "@@?value") n =
        E.reduce F (List.replicate m.count (.integer (Int64.ofNat m.count))) := by
  have hkind : m.kind = .count := (kind_of_evaluateWith hm).trans hk
  constructor
  · rw [single_of_compile hcompile hlikely, hm]
    show m.results E F >>= E.reduce F = _
    rw [Match.results, if_pos hkind]
    rfl
  · rw [single_ownValue_of_likely hn hcompile hlikely hdepth, hm]
    show m.values E F >>= E.reduce F = _
    rw [values_of_count hk hm]
    rfl

/-- A value that is an expression gives a node the same result by itself and through a reference to
it, and fails in the same way, with one exception. Counted nodes are one number by themselves; the
reference stands for all of them, and each is read as this number. -/
theorem single_ownValue_eq_iff (hcompile : Expression.compile text = .ok e)
    (hdepth : ∀ limit, E.single F (.string "@@?value") n ≠ .error (.tooDeep limit)) :
    (E.single F (.string "@@?value") n = E.single F (.string text) n ↔
      (Expression.isLikely text = true → e.kind = .count →
        ∀ m, E.evaluate F e n = .ok m → m.count = 1)) ∧
    (Expression.isLikely text = true → e.kind = .count → ∀ m, E.evaluate F e n = .ok m →
      E.single F (.string text) n = .ok (.integer (Int64.ofNat m.count)) ∧
      E.single F (.string "@@?value") n =
        E.reduce F (List.replicate m.count (.integer (Int64.ofNat m.count)))) := by
  refine ⟨?_, fun hlikely hk m hm => single_of_count hn hcompile hlikely hdepth hk hm⟩
  cases hlikely : Expression.isLikely text with
  | false => exact iff_of_true (single_ownValue_of_constant hn hlikely) nofun
  | true =>
    have hown := single_ownValue_of_likely hn hcompile hlikely hdepth
    have htext := single_of_compile hcompile hlikely E F n
    cases hm : E.evaluate F e n with
    | error err =>
      rw [hown, htext, hm]
      exact iff_of_true rfl nofun
    | ok m =>
      by_cases hk : e.kind = .count
      · obtain ⟨hnumber, hnumbers⟩ := single_of_count hn hcompile hlikely hdepth hk hm
        rw [hnumber, hnumbers, reduce_replicate_integer_iff]
        exact ⟨fun h _ _ m' hm' => Except.ok.inj hm' ▸ h, fun h => h rfl hk m rfl⟩
      · have hkind : ¬ m.kind = .count := kind_of_evaluateWith hm ▸ hk
        rw [hown, htext, hm]
        refine iff_of_true ?_ fun _ hcount => absurd hcount hk
        show m.values E F >>= E.reduce F = m.results E F >>= E.reduce F
        rw [Match.results, if_neg hkind]

end Text

/-- A node that counts its only child, and one that joins the values of three children, the last of
which refers to its own name. -/
theorem single_ownValue_eq_iff_child :
    let F := [Edit.create "r" (.string "@/*?count"), .create "a" .null, .add ⟨0⟩ ⟨1⟩].foldl
      Edit.run {}
    let e : Expression := ⟨"@/*?count", false, ⟨[.single .children], []⟩, .count, none⟩
    let G := [Edit.create "r" (.string "@@/*?value"), .create "a" (.string "x"),
      .create "b" (.integer 2), .create "c" (.string "@?name"), .add ⟨0⟩ ⟨1⟩, .add ⟨0⟩ ⟨2⟩,
      .add ⟨0⟩ ⟨3⟩].foldl Edit.run {}
    let e' : Expression := ⟨"@@/*?value", true, ⟨[.single .children], []⟩, .value, none⟩
    (F.value ⟨0⟩ = .string "@/*?count" ∧ Expression.compile "@/*?count" = .ok e ∧
      Evaluator.single {} F (.string "@@?value") ⟨0⟩ = .ok (.integer 1) ∧
      Evaluator.single {} F (.string "@@?value") ⟨0⟩ =
        Evaluator.single {} F (.string "@/*?count") ⟨0⟩) ∧
    G.value ⟨0⟩ = .string "@@/*?value" ∧ Expression.compile "@@/*?value" = .ok e' ∧
      Evaluator.single {} G (.string "@@?value") ⟨0⟩ = .ok (.string "x2c") ∧
      Evaluator.single {} G (.string "@@?value") ⟨0⟩ =
        Evaluator.single {} G (.string "@@/*?value") ⟨0⟩ := by
  intro F e G e'
  have hdepth {H : Forest} {v : Value}
      (hown : Evaluator.single {} H (.string "@@?value") ⟨0⟩ = .ok v) (limit : Nat) :
      Evaluator.single {} H (.string "@@?value") ⟨0⟩ ≠ .error (.tooDeep limit) := by
    rw [hown]
    exact nofun
  constructor
  · have hcompile : Expression.compile "@/*?count" = .ok e := by
      dsimp only [e]
      rfl
    have hown : Evaluator.single {} F (.string "@@?value") ⟨0⟩ = .ok (.integer 1) := by
      decide +kernel
    have hm : Evaluator.evaluate {} F e ⟨0⟩ = .ok (Match.ofNodes .count none [⟨1⟩]) := by
      decide +kernel
    have hone :=
      (single_ownValue_eq_iff (E := {}) (F := F) (n := ⟨0⟩) rfl hcompile (hdepth hown)).1
    exact ⟨rfl, hcompile, hown, hone.2 fun _ _ m h => Except.ok.inj (hm.symm.trans h) ▸ rfl⟩
  · have hcompile : Expression.compile "@@/*?value" = .ok e' := by
      dsimp only [e']
      rfl
    have hown : Evaluator.single {} G (.string "@@?value") ⟨0⟩ = .ok (.string "x2c") := by
      decide +kernel
    have hone :=
      (single_ownValue_eq_iff (E := {}) (F := G) (n := ⟨0⟩) rfl hcompile (hdepth hown)).1
    exact ⟨rfl, hcompile, hown, hone.2 fun _ hcount => absurd hcount nofun⟩

/-- A node that counts three children is asked for its value three times. -/
theorem not_single_ownValue_children :
    let F := [Edit.create "r" (.string "@/*?count"), .create "a" .null, .create "b" .null,
      .create "c" .null, .add ⟨0⟩ ⟨1⟩, .add ⟨0⟩ ⟨2⟩, .add ⟨0⟩ ⟨3⟩].foldl Edit.run {}
    F.value ⟨0⟩ = .string "@/*?count" ∧
      (∃ e, Expression.compile "@/*?count" = .ok e ∧ e.kind = .count) ∧
      Evaluator.single {} F (.string "@/*?count") ⟨0⟩ = .ok (.integer 3) ∧
      Evaluator.single {} F (.string "@@?value") ⟨0⟩ = .ok (.string "333") ∧
      Evaluator.single {} F (.string "@@?value") ⟨0⟩ ≠
        Evaluator.single {} F (.string "@/*?count") ⟨0⟩ := by
  intro F
  have hnumber : Evaluator.single {} F (.string "@/*?count") ⟨0⟩ = .ok (.integer 3) := by
    decide +kernel
  have htext : Evaluator.single {} F (.string "@@?value") ⟨0⟩ = .ok (.string "333") := by
    decide +kernel
  refine ⟨rfl, ⟨_, rfl, rfl⟩, hnumber, htext, ?_⟩
  rw [hnumber, htext]
  exact nofun

end Evaluator
end TreeQuery
