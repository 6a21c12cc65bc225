import TreeQuery.Proofs.Evaluate.Reference
import TreeQuery.Proofs.Expression.Layout

namespace TreeQuery

def Entity.converted (t : String) (x : Entity) : Entity := { x with convert := some t }

def Match.converted (t : String) (m : Match) : Match :=
  ⟨m.kind, some t, m.entities.map (Entity.converted t)⟩

/-- An entity that is another one but for the type that names and values are converted to. -/
structure Entity.ReadAs (E : Evaluator) (t : String) (x y : Entity) : Prop where
  node : y.node = x.node
  kind : y.kind = x.kind
  count : y.count = x.count
  name : ∀ G, y.kind = .name → y.value E G = E.convertTo G t (.string (G.name y.node))
  value : ∀ G, y.kind = .value → y.value E G = E.convertTo G t (G.value y.node)
  others : ∀ G, y.kind ≠ .name → y.kind ≠ .value → y.value E G = x.value E G

theorem Entity.readAs_converted (E : Evaluator) (t : String) (x : Entity) :
    x.ReadAs E t (x.converted t) := by
  obtain ⟨n, kind, convert, count⟩ := x
  refine ⟨rfl, rfl, rfl, ?_, ?_, ?_⟩
  · rintro G rfl
    rfl
  · rintro G rfl
    rfl
  · intro G hname hvalue
    cases kind with
    | name => exact absurd rfl hname
    | value => exact absurd rfl hvalue
    | _ => rfl

namespace Evaluator

variable {E : Evaluator} {F : Forest} {evaluate : Expression → NodeId → Except EvalError Match}

theorem converted_reconvert (t : String) (convert : Option String) (x : Entity) :
    (reconvert convert x).converted t = reconvert (some t) x := by
  cases convert <;> rfl

/-- Whether an entity is an expression, and which, is seen before any conversion. -/
theorem replacement_converted (t : String) (convert : Option String) (x : Entity) :
    replacement F evaluate (some t) (x.converted t) =
      (replacement F evaluate convert x).map (List.map (Entity.converted t)) := by
  have hreference : reference? F (x.converted t) = reference? F x := rfl
  rw [replacement, replacement, hreference]
  cases reference? F x with
  | none => rfl
  | some text =>
    dsimp only
    show (compileAt F (some x.node) text >>= _) = _
    cases compileAt F (some x.node) text with
    | error err => rfl
    | ok inner =>
      show (evaluate inner x.node >>= _) = Except.map _ (evaluate inner x.node >>= _)
      cases evaluate inner x.node with
      | error err => rfl
      | ok m =>
        have hall : m.entities.map (reconvert (some t)) =
            (m.entities.map (reconvert convert)).map (Entity.converted t) := by
          rw [List.map_map]
          exact List.map_congr_left fun y _ => (converted_reconvert t convert y).symm
        exact congrArg Except.ok hall

theorem expand_converted (t : String) (m : Match) :
    expand F evaluate (m.converted t) = (expand F evaluate m).map (Match.converted t) := by
  have hmap : (m.converted t).entities.mapM (replacement F evaluate (some t)) =
      (m.entities.mapM (replacement F evaluate m.convert)).map
        (List.map (List.map (Entity.converted t))) :=
    mapM_map fun x _ => replacement_converted t m.convert x
  rw [expand_eq, expand_eq]
  show ((m.converted t).entities.mapM (replacement F evaluate (some t))).map _ = _
  rw [hmap]
  cases m.entities.mapM (replacement F evaluate m.convert) with
  | error err => rfl
  | ok parts =>
    show Except.ok (Match.mk m.kind (some t) _) = Except.ok (Match.mk m.kind (some t) _)
    rw [List.map_flatten]

/-- With another type to convert to, an expression is evaluated to the same entities, converted to
that type, also where they come from expressions that name types of their own. -/
theorem evaluateWith_converted (budget : Nat) (e : Expression) (source t : String) (n : NodeId) :
    E.evaluateWith F budget { e with source, convert := some t } n =
      (E.evaluateWith F budget e n).map (Match.converted t) := by
  cases budget with
  | zero => rfl
  | succ budget =>
    rw [evaluateWith, evaluateWith]
    cases E.resolve F e.chain with
    | error err => rfl
    | ok chain =>
      have hfound (ns : List NodeId) : Match.ofNodes e.kind (some t) ns =
          (Match.ofNodes e.kind e.convert ns).converted t := by
        rw [Match.ofNodes, Match.ofNodes, Match.converted, List.map_map]
        rfl
      simp only [bind, Except.bind, hfound]
      cases e.referenced with
      | false => rfl
      | true => exact expand_converted t _

theorem evaluateText_append_type {text t : String} {e : Expression}
    (he : Expression.compile text = .ok e) (hnone : e.convert = none) (hne : t ≠ "")
    (htrim : Text.trim t.toList = t.toList) (n : NodeId) :
    E.evaluateText F (text ++ "." ++ t) n = (E.evaluateText F text n).map (Match.converted t) := by
  have ht : Text.trim t.toList ≠ [] := by
    rw [htrim]
    exact fun h => hne (String.toList_eq_nil_iff.1 h)
  have he' := Expression.compile_append_type he hnone ht
  rw [htrim, String.ofList_toList] at he'
  rw [evaluateText_of_compile he, evaluateText_of_compile he']
  exact evaluateWith_converted _ e _ t n

/-- An expression fails in the same way with the name of a type and without it, and otherwise is
evaluated to the same nodes in the same order, of the same kinds. With it, names and values are
read as their conversion to that type, whatever types the expressions name that led to them. -/
theorem type_suffix_changes_reading_only {text t : String} {e : Expression}
    (he : Expression.compile text = .ok e) (hnone : e.convert = none) (hne : t ≠ "")
    (htrim : Text.trim t.toList = t.toList) (E : Evaluator) (F : Forest) (n : NodeId) :
    (∀ err, E.evaluateText F (text ++ "." ++ t) n = .error err ↔
      E.evaluateText F text n = .error err) ∧
    ∀ m, E.evaluateText F text n = .ok m → ∃ m', E.evaluateText F (text ++ "." ++ t) n = .ok m' ∧
      m'.kind = m.kind ∧ m'.nodes = m.nodes ∧
      List.Forall₂ (Entity.ReadAs E t) m.entities m'.entities := by
  rw [evaluateText_append_type he hnone hne htrim]
  refine ⟨fun err => ?_, fun m hm => ⟨m.converted t, ?_, rfl, ?_, ?_⟩⟩
  · cases E.evaluateText F text n <;> simp [Except.map]
  · rw [hm]
    rfl
  · rw [Match.nodes, Match.nodes, Match.converted, List.map_map]
    rfl
  · rw [Match.converted, List.forall₂_map_right_iff, List.forall₂_same]
    exact fun x _ => Entity.readAs_converted E t x

/-- A child that leads to its parent, read as another type, and one that is a text. -/
theorem type_suffix_changes_reading_only_children :
    let F := [Edit.create "r" (.string "7"), .create "a" (.string "@/.?value.float"),
      .create "b" (.string "12"), .add ⟨0⟩ ⟨1⟩, .add ⟨0⟩ ⟨2⟩].foldl Edit.run {}
    ∃ m, Evaluator.evaluateText {} F "@@/*?value.int" ⟨0⟩ = .ok m ∧ m.nodes = [⟨0⟩, ⟨2⟩] ∧
      m.values {} F = .ok [.integer 7, .integer 12] := by
  intro F
  let e : Expression := ⟨"@@/*?value", true, ⟨[.single .children], []⟩, .value, none⟩
  have he : Expression.compile "@@/*?value" = .ok e := by
    dsimp only [e]
    rfl
  have hinner : Expression.compile "@/.?value.float" =
    .ok ⟨"@/.?value.float", false, ⟨[.single .parent], []⟩, .value, some "float"⟩ := rfl
  have hreference : reference? F ⟨⟨1⟩, .value, none, 2⟩ = some "@/.?value.float" := rfl
  have hfirst : standsFor {} F 63 none ⟨⟨1⟩, .value, none, 2⟩ =
      .ok [⟨⟨0⟩, .value, some "float", 1⟩] := by
    rw [standsFor, hreference]
    dsimp only
    rw [hinner]
    rfl
  have hm : Evaluator.evaluateText {} F "@@/*?value" ⟨0⟩ = .ok ⟨.value, none,
      [⟨⟨0⟩, .value, some "float", 1⟩, ⟨⟨2⟩, .value, none, 2⟩]⟩ := by
    rw [evaluateText_of_compile he]
    exact (evaluate_succ_eq_ok_iff (E := {}) (e := e) rfl rfl).2
      ⟨rfl, rfl, _, .cons hfirst (.cons rfl .nil), rfl⟩
  obtain ⟨m, hm', -, hnodes, hread⟩ :=
    (type_suffix_changes_reading_only (t := "int") he rfl (by decide) (by decide) {} F ⟨0⟩).2 _ hm
  refine ⟨m, hm', hnodes, ?_⟩
  obtain ⟨x, ys, hx, hys, hxs⟩ := List.forall₂_cons_left_iff.1 hread
  obtain ⟨y, _, hy, hnil, rfl⟩ := List.forall₂_cons_left_iff.1 hys
  obtain rfl := List.forall₂_nil_left_iff.1 hnil
  rw [Match.values, hxs]
  refine mapM_eq_ok_iff.2 (.cons ?_ (.cons ?_ .nil))
  · rw [hx.value F hx.kind, hx.node]
    dsimp only [F]
    rfl
  · rw [hy.value F hy.kind, hy.node]
    dsimp only [F]
    rfl

end Evaluator
end TreeQuery
