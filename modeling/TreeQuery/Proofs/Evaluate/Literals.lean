import TreeQuery.Evaluate.Basic
import TreeQuery.Proofs.Expression.Marks
import TreeQuery.Proofs.Result

namespace TreeQuery

section Order
variable {α β ε : Type}

def Mark.literal? : Mark α → Option α
  | .step (.equals a) => some a
  | _ => none

/-- The literals among marks, in the order in which they are written. -/
def Mark.literals (ms : List (Mark α)) : List α := ms.filterMap Mark.literal?

theorem Mark.literals_append (xs ys : List (Mark α)) :
    literals (xs ++ ys) = literals xs ++ literals ys := List.filterMap_append

def Chain.literals (c : Chain α) : List α := Mark.literals c.marks

theorem Step.literals_group (c : Chain α) : Mark.literals (Step.group c).marks = c.literals := by
  rw [Step.marks, Mark.literals_append]
  exact List.append_nil _

variable (f : α → Except ε β)

theorem Selector.literals_mapM (s : Selector α) :
    (fun t => Mark.literals (Step.single t).marks) <$> s.mapM f =
      (Mark.literals (Step.single s).marks).mapM f := by
  cases s with
  | equals a =>
    show _ = [a].mapM f
    rw [List.mapM_cons, Selector.mapM]
    cases f a <;> rfl
  | _ => rfl

-- The literals of what is resolved are the resolved literals, or both fail in the same way.
mutual
theorem Step.literals_mapM (s : Step α) :
    (fun t => Mark.literals t.marks) <$> s.mapM f = (Mark.literals s.marks).mapM f := by
  cases s with
  | single s =>
    rw [← s.literals_mapM f, Step.mapM]
    cases s.mapM f <;> rfl
  | group c =>
    rw [Step.literals_group, ← c.literals_mapM, Step.mapM]
    cases c.mapM f with
    | error e => rfl
    | ok d => exact congrArg _ (Step.literals_group d)

theorem Chain.literals_mapM (c : Chain α) : Chain.literals <$> c.mapM f = c.literals.mapM f := by
  obtain ⟨steps, operands⟩ := c
  rw [Chain.mapM, Chain.literals, Chain.marks, Mark.literals_append, List.mapM_append,
    ← Step.literals_mapAllM steps, ← Operand.literals_mapAllM operands]
  cases Step.mapAllM f steps with
  | error e => rfl
  | ok ss =>
    cases Operand.mapAllM f operands with
    | error e => rfl
    | ok os => exact congrArg Except.ok (Mark.literals_append _ _)

theorem Step.literals_mapAllM (steps : List (Step α)) :
    (fun ts => Mark.literals (Step.marksAll ts)) <$> Step.mapAllM f steps =
      (Mark.literals (Step.marksAll steps)).mapM f := by
  cases steps with
  | nil => rfl
  | cons s rest =>
    rw [Step.mapAllM, Step.marksAll, Mark.literals_append, List.mapM_append,
      ← Step.literals_mapM s, ← Step.literals_mapAllM rest]
    cases s.mapM f with
    | error e => rfl
    | ok t =>
      cases Step.mapAllM f rest with
      | error e => rfl
      | ok ts => exact congrArg Except.ok (Mark.literals_append _ _)

theorem Operand.literals_mapAllM (operands : List (Operand α)) :
    (fun ps => Mark.literals (Operand.marksAll ps)) <$> Operand.mapAllM f operands =
      (Mark.literals (Operand.marksAll operands)).mapM f := by
  cases operands with
  | nil => rfl
  | cons o rest =>
    obtain ⟨op, steps⟩ := o
    have hcons (ss : List (Step α)) (os : List (Operand α)) :
        Mark.literals (Operand.marksAll (⟨op, ss⟩ :: os)) =
          Mark.literals (Step.marksAll ss) ++ Mark.literals (Operand.marksAll os) :=
      Mark.literals_append _ _
    rw [Operand.mapAllM, hcons, List.mapM_append, ← Step.literals_mapAllM steps,
      ← Operand.literals_mapAllM rest]
    cases Step.mapAllM f steps with
    | error e => rfl
    | ok ss =>
      cases Operand.mapAllM f rest with
      | error e => rfl
      | ok os => exact congrArg Except.ok (Mark.literals_append _ _)
end

theorem Chain.mapM_eq_error_iff {f : α → Except ε β} {c : Chain α} {err : ε} :
    c.mapM f = .error err ↔ c.literals.mapM f = .error err := by
  rw [← c.literals_mapM f]
  constructor
  · intro h
    rw [h]
    rfl
  · exact eq_error_of_map

end Order

namespace Evaluator

variable {E : Evaluator} {F : Forest} {chain : Chain Literal} {err : EvalError}

theorem convertTo_eq_error_iff {typeName : String} {v : Value} :
    E.convertTo F typeName v = .error err ↔
      ∃ e, E.convert F v typeName = .error e ∧ err = .conversion e := by
  rw [convertTo]
  cases E.convert F v typeName <;> simp [eq_comm]

theorem convertTo_eq_ok_iff {typeName : String} {v w : Value} :
    E.convertTo F typeName v = .ok w ↔ E.convert F v typeName = .ok w := by
  rw [convertTo]
  cases E.convert F v typeName <;> simp

theorem conversion_of_convertTo {typeName : String} {v : Value}
    (h : E.convertTo F typeName v = .error err) : ∃ e, err = .conversion e := by
  obtain ⟨e, -, rfl⟩ := convertTo_eq_error_iff.1 h
  exact ⟨e, rfl⟩

/-- A literal fails only because its text cannot be converted. -/
theorem exists_of_resolve_error (h : E.resolve F chain = .error err) :
    ∃ e, err = .conversion e := by
  obtain ⟨-, l, -, -, -, hl⟩ := mapM_eq_error_iff.1 (Chain.mapM_eq_error_iff.1 h)
  cases l with
  | plain text => exact absurd hl nofun
  | typed typeName text => exact conversion_of_convertTo hl

end Evaluator
end TreeQuery
