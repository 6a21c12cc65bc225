import TreeQuery.Evaluate.Resolution
import TreeQuery.Proofs.Evaluate.Literals
import TreeQuery.Proofs.Forest.Reachable

namespace TreeQuery

namespace Value

def breakBetween (v w : Value) : String := if v.isNode || w.isNode then "\r\n" else ""

/-- What stands before each of some texts in a row: before the first one nothing. -/
def breaks (vs : List Value) : List String := "" :: List.zipWith breakBetween vs vs.tail

def joined (vs : List Value) (texts : List String) : String :=
  String.join (List.zipWith (· ++ ·) (breaks vs) texts)

end Value

namespace Evaluator

variable {E : Evaluator} {F : Forest} {v w : Value} {vs : List Value} {err : EvalError}

theorem textOf_of_convert (h : E.convert F v "string" = .ok w) : E.textOf F v = .ok (w.text F) := by
  rw [textOf, convertTo_eq_ok_iff.2 h]
  rfl

theorem textOf_eq_error_iff : E.textOf F v = .error err ↔
    ∃ e, E.convert F v "string" = .error e ∧ err = .conversion e := by
  rw [← convertTo_eq_error_iff, textOf]
  constructor
  · exact eq_error_of_map
  · intro h
    rw [h]
    rfl

theorem exists_textOf_iff :
    (∃ s, E.textOf F v = .ok s) ↔ ∃ w, E.convert F v "string" = .ok w := by
  cases h : E.convert F v "string" with
  | ok w => exact ⟨fun _ => ⟨w, rfl⟩, fun _ => ⟨_, textOf_of_convert h⟩⟩
  | error e =>
    rw [textOf_eq_error_iff.2 ⟨e, h, rfl⟩]
    exact ⟨nofun, nofun⟩

/-- The loop knows of the value before only whether it is a node. -/
theorem joinAfter_eq (E : Evaluator) (F : Forest) (v : Value) (vs : List Value) :
    E.joinAfter F v.isNode vs = (fun texts => String.join
      (List.zipWith (· ++ ·) (List.zipWith Value.breakBetween (v :: vs) vs) texts)) <$>
        vs.mapM (E.textOf F) := by
  induction vs generalizing v with
  | nil => rfl
  | cons w vs ih =>
    rw [joinAfter, ih w, List.mapM_cons]
    cases E.textOf F w with
    | error e => rfl
    | ok text =>
      cases vs.mapM (E.textOf F) with
      | error e => rfl
      | ok texts =>
        refine congrArg Except.ok ?_
        simp only [List.zipWith_cons_cons, String.join_cons, Value.breakBetween, Bool.or_comm]

theorem reduce_of_two_le (E : Evaluator) (F : Forest) (h : 2 ≤ vs.length) :
    E.reduce F vs = (fun texts => .string (Value.joined vs texts)) <$> vs.mapM (E.textOf F) := by
  match vs, h with
  | v :: ws, h =>
    have hmore : ws ≠ [] := by
      rintro rfl
      exact absurd h (Nat.not_succ_le_self 1)
    rw [reduce, joinAfter_eq, List.mapM_cons]
    · cases E.textOf F v with
      | error e => rfl
      | ok text =>
        cases ws.mapM (E.textOf F) with
        | error e => rfl
        | ok texts =>
          refine congrArg (fun s => Except.ok (Value.string s)) ?_
          simp [Value.joined, Value.breaks]
    · exact hmore

theorem reduce_of_converted {converted : List Value} (hlen : 2 ≤ vs.length)
    (h : List.Forall₂ (fun w u => E.convert F w "string" = .ok u) vs converted) :
    E.reduce F vs = .ok (.string (Value.joined vs (converted.map (Value.text F)))) := by
  have htexts : vs.mapM (E.textOf F) = .ok (converted.map (Value.text F)) := by
    rw [mapM_eq_ok_iff, List.forall₂_map_right_iff]
    exact h.imp fun w u => textOf_of_convert
  rw [reduce_of_two_le E F hlen, htexts]
  rfl

/-- Only the text of a value can be missing, and only where there are others beside it. -/
theorem reduce_eq_error_iff : E.reduce F vs = .error err ↔ 2 ≤ vs.length ∧
    ∃ before w after, vs = before ++ w :: after ∧
      (∀ b ∈ before, ∃ u, E.convert F b "string" = .ok u) ∧
      ∃ e, E.convert F w "string" = .error e ∧ err = .conversion e := by
  by_cases h : 2 ≤ vs.length
  · simp only [← exists_textOf_iff, ← textOf_eq_error_iff]
    rw [and_iff_right h, ← mapM_eq_error_iff, reduce_of_two_le E F h]
    constructor
    · exact eq_error_of_map
    · intro herr
      rw [herr]
      rfl
  · refine iff_of_false ?_ fun hlen => h hlen.1
    match vs, h with
    | [], _ => exact nofun
    | [v], _ => exact nofun
    | v :: w :: rest, h => exact absurd (Nat.le_add_left 2 rest.length) h

/-- A constant or an expression that stands for no values is reduced to null, one that stands for a
single value to this value as it is, and one that stands for several to a text: those that the values
convert to, in their order, that of null being empty, and a new line between two neighbours of which
one is a node. This fails just when finding the values does, or when there are two or more and one of
them has no text, and then with the first such failure. -/
theorem single_joins_values (E : Evaluator) (F : Forest) (v : Value) (source : NodeId) :
    (∀ vs, E.values F v source = .ok vs →
      (vs = [] → E.single F v source = .ok .null) ∧
      (∀ w, vs = [w] → E.single F v source = .ok w) ∧
      ∀ converted, 2 ≤ vs.length →
        List.Forall₂ (fun w u => E.convert F w "string" = .ok u) vs converted →
        E.single F v source = .ok (.string (Value.joined vs (converted.map (Value.text F))))) ∧
    ∀ err, E.single F v source = .error err ↔ E.values F v source = .error err ∨
      ∃ before w after, E.values F v source = .ok (before ++ w :: after) ∧
        2 ≤ (before ++ w :: after).length ∧
        (∀ b ∈ before, ∃ u, E.convert F b "string" = .ok u) ∧
        ∃ e, E.convert F w "string" = .error e ∧ err = .conversion e := by
  have hsingle : E.single F v source = E.values F v source >>= E.reduce F := rfl
  rw [hsingle]
  refine ⟨fun vs hvalues => ?_, fun err => ⟨fun herr => ?_, ?_⟩⟩
  · rw [hvalues]
    refine ⟨?_, ?_, fun converted => reduce_of_converted⟩
    · rintro rfl
      rfl
    · rintro w rfl
      rfl
  · rcases error_of_bind herr with hvalues | ⟨vs, hvalues, hreduce⟩
    · exact .inl hvalues
    · obtain ⟨hlen, before, w, after, rfl, hbefore, hfails⟩ := reduce_eq_error_iff.1 hreduce
      exact .inr ⟨before, w, after, hvalues, hlen, hbefore, hfails⟩
  · rintro (hvalues | ⟨before, w, after, hvalues, hlen, hbefore, hfails⟩)
    · rw [hvalues]
      rfl
    · rw [hvalues]
      exact reduce_eq_error_iff.2 ⟨hlen, before, w, after, rfl, hbefore, hfails⟩

/-- A converter with a text for nodes, and among four values one node. -/
theorem single_joins_values_node :
    let F := [Edit.create "r" .null, .create "a" (.integer 1), .create "b" (.node ⟨0⟩),
      .create "c" .null, .create "d" (.string "x"), .add ⟨0⟩ ⟨1⟩, .add ⟨0⟩ ⟨2⟩, .add ⟨0⟩ ⟨3⟩,
      .add ⟨0⟩ ⟨4⟩].foldl Edit.run {}
    let E : Evaluator := ⟨fun F v target => match v, target with
      | .node n, "string" => .ok (.string ("<" ++ F.name n ++ ">"))
      | v, target => TreeQuery.convert F v target, 64⟩
    E.values F (.string "@/*?value") ⟨0⟩ =
        .ok [.integer 1, .node ⟨0⟩, .null, .string "x"] ∧
      E.single F (.string "@/*?value") ⟨0⟩ = .ok (.string "1\r\n<r>\r\nx") := by
  intro F E
  have hvalues : E.values F (.string "@/*?value") ⟨0⟩ =
      .ok [.integer 1, .node ⟨0⟩, .null, .string "x"] := by decide +kernel
  refine ⟨hvalues, ?_⟩
  obtain ⟨-, -, hjoined⟩ := (single_joins_values E F (.string "@/*?value") ⟨0⟩).1 _ hvalues
  refine (hjoined [.string "1", .string "<r>", .null, .string "x"] (by decide) ?_).trans ?_
  · exact .cons (by decide +kernel) (.cons (by decide +kernel)
      (.cons (by decide +kernel) (.cons (by decide +kernel) .nil)))
  · decide +kernel

end Evaluator
end TreeQuery
