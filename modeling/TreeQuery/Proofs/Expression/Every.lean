import TreeQuery.Proofs.Expression.Marks
import TreeQuery.Proofs.Result
import TreeQuery.Select.Basic

namespace TreeQuery

variable {α β ε : Type} {P : Selector α → Prop}

mutual
/-- All selectors of a step, also those within a group, have a property. -/
def Step.Every (P : Selector α → Prop) : Step α → Prop
  | .single s => P s
  | .group c => c.Every P

def Chain.Every (P : Selector α → Prop) : Chain α → Prop
  | ⟨steps, operands⟩ => Step.EveryAll P steps ∧ Operand.EveryAll P operands

def Step.EveryAll (P : Selector α → Prop) : List (Step α) → Prop
  | [] => True
  | s :: rest => s.Every P ∧ Step.EveryAll P rest

def Operand.EveryAll (P : Selector α → Prop) : List (Operand α) → Prop
  | [] => True
  | ⟨_, steps⟩ :: rest => Step.EveryAll P steps ∧ Operand.EveryAll P rest
end

-- The selectors of a chain are the ones among its marks.
mutual
theorem Step.every_iff (s : Step α) :
    s.Every P ↔ ∀ x, .step x ∈ s.marks → P x := by
  cases s with
  | single s => simp [Step.Every, Step.marks]
  | group c => simp [Step.Every, Step.marks, Chain.every_iff c]
termination_by structural s

theorem Chain.every_iff (c : Chain α) :
    c.Every P ↔ ∀ x, .step x ∈ c.marks → P x := by
  obtain ⟨steps, operands⟩ := c
  rw [Chain.Every, Chain.marks, Step.everyAll_iff steps, Operand.everyAll_iff operands]
  simp only [List.mem_append, or_imp, forall_and]
termination_by structural c

theorem Step.everyAll_iff (steps : List (Step α)) :
    Step.EveryAll P steps ↔ ∀ x, .step x ∈ Step.marksAll steps → P x := by
  cases steps with
  | nil => simp [Step.EveryAll, Step.marksAll]
  | cons s rest =>
    rw [Step.EveryAll, Step.marksAll, Step.every_iff s, Step.everyAll_iff rest]
    simp only [List.mem_append, or_imp, forall_and]
termination_by structural steps

theorem Operand.everyAll_iff (operands : List (Operand α)) :
    Operand.EveryAll P operands ↔ ∀ x, .step x ∈ Operand.marksAll operands → P x := by
  cases operands with
  | nil => simp [Operand.EveryAll, Operand.marksAll]
  | cons o rest =>
    obtain ⟨op, steps⟩ := o
    rw [Operand.EveryAll, Operand.marksAll, Step.everyAll_iff steps, Operand.everyAll_iff rest]
    simp only [List.mem_cons, List.mem_append, reduceCtorEq, false_or, or_imp, forall_and]
termination_by structural operands
end

section Replaced
variable {f : α → Except ε β} {Q : Selector β → Prop}

mutual
theorem Step.every_of_mapM (h : ∀ s t, P s → Selector.mapM f s = .ok t → Q t) (s : Step α)
    (hs : s.Every P) {t : Step β} (ht : s.mapM f = .ok t) : t.Every Q := by
  cases s with
  | single s =>
    obtain ⟨t', ht', rfl⟩ := ok_of_map ht
    exact h s t' hs ht'
  | group c =>
    obtain ⟨d, hd, rfl⟩ := ok_of_map ht
    exact Chain.every_of_mapM h c hs hd

theorem Chain.every_of_mapM (h : ∀ s t, P s → Selector.mapM f s = .ok t → Q t) (c : Chain α)
    (hc : c.Every P) {d : Chain β} (hd : c.mapM f = .ok d) : d.Every Q := by
  obtain ⟨steps, operands⟩ := c
  obtain ⟨ss, hss, hd⟩ := ok_of_bind hd
  obtain ⟨os, hos, hd⟩ := ok_of_bind hd
  obtain rfl := Except.ok.inj hd
  exact ⟨Step.every_of_mapAllM h steps hc.1 hss, Operand.every_of_mapAllM h operands hc.2 hos⟩

theorem Step.every_of_mapAllM (h : ∀ s t, P s → Selector.mapM f s = .ok t → Q t)
    (steps : List (Step α)) (hsteps : Step.EveryAll P steps) {ss : List (Step β)}
    (hs : Step.mapAllM f steps = .ok ss) : Step.EveryAll Q ss := by
  cases steps with
  | nil =>
    obtain rfl := Except.ok.inj hs
    exact trivial
  | cons s rest =>
    obtain ⟨t, ht, hs⟩ := ok_of_bind hs
    obtain ⟨ts, hts, hs⟩ := ok_of_bind hs
    obtain rfl := Except.ok.inj hs
    exact ⟨Step.every_of_mapM h s hsteps.1 ht, Step.every_of_mapAllM h rest hsteps.2 hts⟩

theorem Operand.every_of_mapAllM (h : ∀ s t, P s → Selector.mapM f s = .ok t → Q t)
    (operands : List (Operand α)) (hoperands : Operand.EveryAll P operands)
    {os : List (Operand β)} (ho : Operand.mapAllM f operands = .ok os) :
    Operand.EveryAll Q os := by
  cases operands with
  | nil =>
    obtain rfl := Except.ok.inj ho
    exact trivial
  | cons o rest =>
    obtain ⟨op, steps⟩ := o
    obtain ⟨ts, hts, ho⟩ := ok_of_bind ho
    obtain ⟨ps, hps, ho⟩ := ok_of_bind ho
    obtain rfl := Except.ok.inj ho
    exact ⟨Step.every_of_mapAllM h steps hoperands.1 hts,
      Operand.every_of_mapAllM h rest hoperands.2 hps⟩
end

end Replaced
end TreeQuery
