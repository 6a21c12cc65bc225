import TreeQuery.Proofs.Select.Pull

namespace TreeQuery

variable {F : Forest}

theorem SetOp.remaining_cursor (F : Forest) (op : SetOp) (left right : Cursor) :
    (op.cursor left right).remaining F = op.combine (left.remaining F) (right.remaining F) := by
  cases op with
  | or => simp only [SetOp.cursor, Cursor.remaining, List.append_nil, SetOp.combine]
  | and => rfl
  | not => rfl
  | xor => rfl

theorem Selector.remaining_cursor (F : Forest) (s : Selector Value) (source : Cursor) :
    (s.cursor source).remaining F = s.apply F (source.remaining F) := by
  cases s with
  | range start stop => cases stop <;> rfl
  | _ => rfl

mutual
theorem Step.remaining_cursor (hF : F.WellFormed) (s : Step Value) (source : Cursor) :
    (s.cursor F source).remaining F = s.select F (source.remaining F) := by
  cases s with
  | single s => exact s.remaining_cursor F source
  | group c => exact c.remaining_cursor hF source

theorem Chain.remaining_cursor (hF : F.WellFormed) (c : Chain Value) (source : Cursor) :
    (c.cursor F source).remaining F = c.select F (source.remaining F) := by
  obtain ⟨steps, operands⟩ := c
  cases operands with
  | nil => exact Step.remaining_cursorAll hF steps source
  | cons o rest =>
    rw [Chain.cursor, Chain.select, Operand.remaining_cursorAll hF _ (o :: rest),
      Step.remaining_cursorAll hF steps, Cursor.drain_eq_remaining hF]
    · rfl
    · exact nofun

theorem Step.remaining_cursorAll (hF : F.WellFormed) (steps : List (Step Value)) (source : Cursor) :
    (Step.cursorAll F steps source).remaining F =
      Step.selectAll F steps (source.remaining F) := by
  cases steps with
  | nil => rfl
  | cons s rest =>
    rw [Step.cursorAll, Step.remaining_cursorAll hF rest, s.remaining_cursor hF, Step.selectAll]

theorem Operand.remaining_cursorAll (hF : F.WellFormed) (roots : List NodeId)
    (operands : List (Operand Value)) (result : Cursor) :
    (Operand.cursorAll F roots operands result).remaining F =
      Operand.selectAll F roots operands (result.remaining F) := by
  cases operands with
  | nil => rfl
  | cons o rest =>
    obtain ⟨op, steps⟩ := o
    rw [Operand.cursorAll, Operand.remaining_cursorAll hF roots rest, op.remaining_cursor F,
      Step.remaining_cursorAll hF steps, Operand.selectAll]
    rfl
end

end TreeQuery
