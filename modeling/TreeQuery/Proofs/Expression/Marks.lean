import TreeQuery.Expression.Basic

namespace TreeQuery

variable {α : Type}

/-- What a chain is written with. -/
inductive Mark (α : Type)
  | step (selector : Selector α)
  | operator (op : SetOp)
  | opens
  | closes
deriving DecidableEq

mutual
/-- The marks of a step. Those of a group are the marks of its chain between parentheses. -/
def Step.marks : Step α → List (Mark α)
  | .single s => [.step s]
  | .group c => .opens :: c.marks ++ [.closes]

/-- The marks of a chain: those of its steps, then each operator with its own steps. -/
def Chain.marks : Chain α → List (Mark α)
  | ⟨steps, operands⟩ => Step.marksAll steps ++ Operand.marksAll operands

def Step.marksAll : List (Step α) → List (Mark α)
  | [] => []
  | s :: rest => s.marks ++ Step.marksAll rest

def Operand.marksAll : List (Operand α) → List (Mark α)
  | [] => []
  | ⟨op, steps⟩ :: rest => .operator op :: (Step.marksAll steps ++ Operand.marksAll rest)
end

theorem Step.marksAll_append (xs ys : List (Step α)) :
    Step.marksAll (xs ++ ys) = Step.marksAll xs ++ Step.marksAll ys := by
  induction xs with
  | nil => rfl
  | cons s xs ih => rw [List.cons_append, marksAll, marksAll, ih, List.append_assoc]

theorem Operand.marksAll_append (xs ys : List (Operand α)) :
    Operand.marksAll (xs ++ ys) = Operand.marksAll xs ++ Operand.marksAll ys := by
  induction xs with
  | nil => rfl
  | cons o xs ih =>
    obtain ⟨op, steps⟩ := o
    rw [List.cons_append, marksAll, marksAll, ih, List.cons_append, List.append_assoc]

theorem Step.marksAll_singleton (s : Step α) : Step.marksAll [s] = s.marks :=
  List.append_nil _

@[simp] theorem Chain.marks_empty : (Chain.empty : Chain α).marks = [] := rfl

theorem Chain.marks_pushOperator (c : Chain α) (op : SetOp) :
    (c.pushOperator op).marks = c.marks ++ [.operator op] := by
  obtain ⟨steps, operands⟩ := c
  rw [pushOperator, Chain.marks, Chain.marks, Operand.marksAll_append, ← List.append_assoc]
  rfl

/-- A step that is added comes after all other marks, also where it goes to a right side. -/
theorem Chain.marks_push (c : Chain α) (s : Step α) : (c.push s).marks = c.marks ++ s.marks := by
  obtain ⟨steps, operands⟩ := c
  rcases List.eq_nil_or_concat operands with rfl | ⟨front, ⟨op, steps'⟩, rfl⟩
  · show Step.marksAll (steps ++ [s]) ++ [] = (Step.marksAll steps ++ []) ++ s.marks
    rw [Step.marksAll_append, Step.marksAll_singleton, List.append_nil, List.append_nil]
  · have hpush : Chain.push ⟨steps, front ++ [⟨op, steps'⟩]⟩ s =
        ⟨steps, front ++ [⟨op, steps' ++ [s]⟩]⟩ := by
      simp [push]
    have hlast (ss : List (Step α)) :
        Operand.marksAll [⟨op, ss⟩] = .operator op :: Step.marksAll ss :=
      congrArg _ (List.append_nil _)
    rw [List.concat_eq_append, hpush, Chain.marks, Chain.marks, Operand.marksAll_append,
      Operand.marksAll_append, hlast, hlast, Step.marksAll_append, Step.marksAll_singleton]
    simp only [List.cons_append, List.append_assoc]

def noStep : List (Mark α) → Prop
  | .step _ :: _ | .opens :: _ => False
  | _ => True

def noOperand : List (Mark α) → Prop
  | .step _ :: _ | .opens :: _ | .operator _ :: _ => False
  | _ => True

theorem noStep_operands {r : List (Mark α)} (h : noOperand r) (operands : List (Operand α)) :
    noStep (Operand.marksAll operands ++ r) := by
  cases operands with
  | cons o rest =>
    obtain ⟨op, steps⟩ := o
    rw [Operand.marksAll]
    exact trivial
  | nil =>
    match r with
    | [] => exact trivial
    | .step _ :: _ => exact h
    | .opens :: _ => exact h
    | .operator _ :: _ => exact trivial
    | .closes :: _ => exact trivial

theorem not_noStep_marks (s : Step α) (r : List (Mark α)) : ¬ noStep (s.marks ++ r) := by
  cases s <;> exact id

theorem not_noOperand_marksAll (o : Operand α) (operands : List (Operand α)) (r : List (Mark α)) :
    ¬ noOperand (Operand.marksAll (o :: operands) ++ r) := by
  obtain ⟨op, steps⟩ := o
  rw [Operand.marksAll]
  exact id

-- What follows a list is told from it by its first mark, which cannot continue the list.
mutual
theorem Step.marks_append_inj (s t : Step α) {r r' : List (Mark α)}
    (h : s.marks ++ r = t.marks ++ r') : s = t ∧ r = r' := by
  cases s with
  | single s =>
    cases t with
    | single t =>
      obtain ⟨hst, hr⟩ := List.cons.inj h
      exact ⟨congrArg _ (Mark.step.inj hst), hr⟩
    | group d => exact absurd (List.cons.inj h).1 nofun
  | group c =>
    cases t with
    | single t => exact absurd (List.cons.inj h).1 nofun
    | group d =>
      rw [Step.marks, Step.marks] at h
      simp only [List.cons_append, List.append_assoc, List.cons.injEq, true_and] at h
      have hclosed (q : List (Mark α)) : noOperand (.closes :: q) := trivial
      obtain ⟨rfl, hr⟩ := Chain.marks_append_inj c d (hclosed _) (hclosed _) h
      exact ⟨rfl, (List.cons.inj hr).2⟩
termination_by structural s

theorem Chain.marks_append_inj (c d : Chain α) {r r' : List (Mark α)} (hr : noOperand r)
    (hr' : noOperand r') (h : c.marks ++ r = d.marks ++ r') : c = d ∧ r = r' := by
  obtain ⟨steps, operands⟩ := c
  obtain ⟨steps', operands'⟩ := d
  rw [Chain.marks, Chain.marks, List.append_assoc, List.append_assoc] at h
  obtain ⟨rfl, hops⟩ := Step.marksAll_append_inj steps steps' (noStep_operands hr operands)
    (noStep_operands hr' operands') h
  obtain ⟨rfl, hrest⟩ := Operand.marksAll_append_inj operands operands' hr hr' hops
  exact ⟨rfl, hrest⟩
termination_by structural c

theorem Step.marksAll_append_inj (xs ys : List (Step α)) {r r' : List (Mark α)} (hr : noStep r)
    (hr' : noStep r') (h : Step.marksAll xs ++ r = Step.marksAll ys ++ r') : xs = ys ∧ r = r' := by
  cases xs with
  | nil =>
    cases ys with
    | nil => exact ⟨rfl, h⟩
    | cons t ys =>
      rw [Step.marksAll, Step.marksAll, List.nil_append, List.append_assoc] at h
      exact absurd (h ▸ hr) (not_noStep_marks t _)
  | cons s xs =>
    cases ys with
    | nil =>
      rw [Step.marksAll, Step.marksAll, List.nil_append, List.append_assoc] at h
      exact absurd (h ▸ hr') (not_noStep_marks s _)
    | cons t ys =>
      rw [Step.marksAll, Step.marksAll, List.append_assoc, List.append_assoc] at h
      obtain ⟨rfl, hxs⟩ := Step.marks_append_inj s t h
      obtain ⟨rfl, hrest⟩ := Step.marksAll_append_inj xs ys hr hr' hxs
      exact ⟨rfl, hrest⟩
termination_by structural xs

theorem Operand.marksAll_append_inj (xs ys : List (Operand α)) {r r' : List (Mark α)}
    (hr : noOperand r) (hr' : noOperand r')
    (h : Operand.marksAll xs ++ r = Operand.marksAll ys ++ r') : xs = ys ∧ r = r' := by
  cases xs with
  | nil =>
    cases ys with
    | nil => exact ⟨rfl, h⟩
    | cons p ys =>
      rw [Operand.marksAll, List.nil_append] at h
      exact absurd (h ▸ hr) (not_noOperand_marksAll p ys _)
  | cons o xs =>
    cases ys with
    | nil =>
      rw [Operand.marksAll.eq_1, List.nil_append] at h
      exact absurd (h ▸ hr') (not_noOperand_marksAll o xs _)
    | cons p ys =>
      obtain ⟨op, steps⟩ := o
      obtain ⟨op', steps'⟩ := p
      rw [Operand.marksAll, Operand.marksAll, List.cons_append, List.cons_append,
        List.append_assoc, List.append_assoc, List.cons.injEq, Mark.operator.injEq] at h
      obtain ⟨rfl, hsteps⟩ := h
      obtain ⟨rfl, hxs⟩ := Step.marksAll_append_inj steps steps' (noStep_operands hr xs)
        (noStep_operands hr' ys) hsteps
      obtain ⟨rfl, hrest⟩ := Operand.marksAll_append_inj xs ys hr hr' hxs
      exact ⟨rfl, hrest⟩
termination_by structural xs
end

/-- The marks determine the chain. -/
theorem Chain.marks_injective {c d : Chain α} (h : c.marks = d.marks) : c = d := by
  have hnil : noOperand ([] : List (Mark α)) := trivial
  exact (Chain.marks_append_inj c d hnil hnil (by rw [h])).1

end TreeQuery
