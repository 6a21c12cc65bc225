import TreeQuery.Proofs.Forest.Edits
import TreeQuery.Proofs.Forest.Preorder

namespace TreeQuery.Forest

variable {F : Forest} {n m p c d : NodeId}

/-- The copy of `m` when the subtree of `n` is copied. -/
def copied (F : Forest) (n m : NodeId) : Option NodeId := copyOf F.size (F.preorder n) m

theorem copied_eq_some_iff :
    F.copied n m = some c ↔ ∃ i, (F.preorder n).idxOf? m = some i ∧ c = ⟨F.size + i⟩ := by
  simp only [copied, copyOf, Option.map_eq_some_iff]
  exact exists_congr fun i => and_congr_right fun _ => eq_comm

theorem isSome_copied : (F.copied n m).isSome ↔ m ∈ F.preorder n := by
  rw [copied, copyOf, Option.isSome_map, List.isSome_idxOf?]

theorem mem_preorder_of_copied (h : F.copied n m = some c) : m ∈ F.preorder n :=
  isSome_copied.1 (by rw [h]; rfl)

theorem copied_injective {m' : NodeId} (h : F.copied n m = some c) (h' : F.copied n m' = some c) :
    m = m' := by
  obtain ⟨i, hi, rfl⟩ := copied_eq_some_iff.1 h
  obtain ⟨j, hj, hij⟩ := copied_eq_some_iff.1 h'
  obtain rfl : i = j := by
    have := congrArg NodeId.index hij
    simp only at this
    omega
  obtain ⟨hlt, hm, -⟩ := List.idxOf?_eq_some_iff.1 hi
  obtain ⟨_, hm', -⟩ := List.idxOf?_eq_some_iff.1 hj
  exact hm.symm.trans hm'

theorem not_contains_of_copied (h : F.copied n m = some c) : ¬ F.contains c = true := by
  obtain ⟨i, -, rfl⟩ := copied_eq_some_iff.1 h
  rw [contains_iff]
  show ¬ F.size + i < F.size
  omega

theorem copied_self (F : Forest) (n : NodeId) : F.copied n n = some (F.copy n).1 := by
  rw [copied_eq_some_iff]
  refine ⟨0, ?_, rfl⟩
  rw [preorder, preorderTo_succ, List.idxOf?_cons, if_pos (by simp)]

theorem size_copy (F : Forest) (n : NodeId) :
    (F.copy n).2.size = F.size + (F.preorder n).length := by
  simp [copy, size]

theorem get_copy_of_contains (h : F.contains m = true) : (F.copy n).2.get m = F.get m := by
  rw [contains_iff, size] at h
  simp only [copy, get, Array.getD_eq_getD_getElem?]
  rw [Array.getElem?_append_left h]

theorem get_copied (h : F.copied n m = some c) :
    (F.copy n).2.get c =
      { name := F.name m
        value := copyValue F.size (F.preorder n) (F.value m)
        children := (F.children m).filterMap (F.copied n)
        parent := if m = n then none else (F.parent m).bind (F.copied n) } := by
  obtain ⟨i, hi, rfl⟩ := copied_eq_some_iff.1 h
  obtain ⟨hlt, hm, -⟩ := List.idxOf?_eq_some_iff.1 hi
  simp only [copy, get, size, Array.getD_eq_getD_getElem?]
  rw [Array.getElem?_append_right (by omega)]
  simp only [Nat.add_sub_cancel_left, List.getElem?_toArray, List.getElem?_map,
    List.getElem?_eq_getElem hlt, hm, Option.map_some, Option.getD_some]
  rfl

theorem links_copy_of_contains (h : F.contains m = true) :
    (F.copy n).2.parent m = F.parent m ∧ (F.copy n).2.children m = F.children m := by
  rw [parent, children, get_copy_of_contains h]
  exact ⟨rfl, rfl⟩

theorem parent_copied_iff (h : F.copied n m = some c) :
    (F.copy n).2.parent c = some d ↔ m ≠ n ∧ ∃ p, F.parent m = some p ∧ F.copied n p = some d := by
  rw [parent, get_copied h]
  split
  · next hm => simp [hm]
  · next hm => simp [hm, Option.bind_eq_some_iff]

theorem mem_children_copied (h : F.copied n p = some d) :
    c ∈ (F.copy n).2.children d ↔ ∃ m ∈ F.children p, F.copied n m = some c := by
  rw [children, get_copied h, List.mem_filterMap]

section WellFormed
variable (hF : F.WellFormed)
include hF

/-- The nodes after copying are those from before and the copies. -/
theorem contains_copy : (F.copy n).2.contains c = true ↔
    F.contains c = true ∨ ∃ m, F.copied n m = some c := by
  rw [contains_iff, contains_iff, size_copy]
  constructor
  · intro h
    by_cases hc : c.index < F.size
    · exact .inl hc
    · have hi : c.index - F.size < (F.preorder n).length := by omega
      refine .inr ⟨(F.preorder n)[c.index - F.size], ?_⟩
      refine copied_eq_some_iff.2 ⟨c.index - F.size, ?_, ?_⟩
      · rw [List.idxOf?_eq_some_iff]
        refine ⟨hi, rfl, fun j hj he => ?_⟩
        have := (nodup_preorder hF n).getElem_inj_iff.1 he
        omega
      · obtain ⟨i⟩ := c
        simp only [NodeId.mk.injEq] at hc ⊢
        omega
  · rintro (h | ⟨m, h⟩)
    · omega
    · obtain ⟨i, hi, rfl⟩ := copied_eq_some_iff.1 h
      obtain ⟨hlt, -⟩ := List.idxOf?_eq_some_iff.1 hi
      show F.size + i < _
      omega

theorem parent_ne_of_mem_preorder (hp : p ∈ F.preorder n) : F.parent n ≠ some p := fun h =>
  hF.acyclic n (.head' h ((mem_preorder hF).1 hp))

theorem parent_copy_iff : (F.copy n).2.parent c = some d ↔ c ∈ (F.copy n).2.children d := by
  constructor
  · intro h
    rcases (contains_copy hF).1 (contains_of_parent h) with hc | ⟨m, hm⟩
    · rw [(links_copy_of_contains hc).1] at h
      rw [(links_copy_of_contains (hF.contains_parent h)).2]
      exact hF.mem_children h
    · obtain ⟨-, p, hp, hd⟩ := (parent_copied_iff hm).1 h
      exact (mem_children_copied hd).2 ⟨m, hF.mem_children hp, hm⟩
  · intro h
    rcases (contains_copy hF).1 (contains_of_mem_children h) with hd | ⟨p, hd⟩
    · rw [(links_copy_of_contains hd).2] at h
      rw [(links_copy_of_contains (hF.contains_child h)).1]
      exact hF.parent_of_mem h
    · obtain ⟨m, hm, hc⟩ := (mem_children_copied hd).1 h
      have hp := hF.parent_of_mem hm
      refine (parent_copied_iff hc).2 ⟨?_, p, hp, hd⟩
      rintro rfl
      exact parent_ne_of_mem_preorder hF (mem_preorder_of_copied hd) hp

/-- A way up in a forest with a copy is one of the forest, or the copy of one. -/
theorem transGen_copy (h : Relation.TransGen (F.copy n).2.Under c d) :
    Relation.TransGen F.Under c d ∨
      ∃ m p, F.copied n m = some c ∧ F.copied n p = some d ∧ Relation.TransGen F.Under m p := by
  have step : ∀ {c d}, (F.copy n).2.Under c d → F.contains c = true ∧ F.Under c d ∨
      ∃ m p, F.copied n m = some c ∧ F.copied n p = some d ∧ F.Under m p := by
    intro c d h
    rcases (contains_copy hF).1 (contains_of_parent h) with hc | ⟨m, hm⟩
    · rw [Under, (links_copy_of_contains hc).1] at h
      exact .inl ⟨hc, h⟩
    · obtain ⟨-, p, hp, hd⟩ := (parent_copied_iff hm).1 h
      exact .inr ⟨m, p, hm, hd, hp⟩
  -- no link joins the old nodes with the copies, so a walk stays among those it begins with
  induction h with
  | single h =>
    rcases step h with ⟨-, h⟩ | ⟨m, p, hm, hp, h⟩
    · exact .inl (.single h)
    · exact .inr ⟨m, p, hm, hp, .single h⟩
  | tail hcd h ih =>
    rcases ih with ih | ⟨m, p, hm, hp, ih⟩
    · obtain ⟨q, -, hq⟩ := Relation.TransGen.tail'_iff.1 ih
      rw [Under, (links_copy_of_contains (hF.contains_parent hq)).1] at h
      exact .inl (ih.tail h)
    · rcases step h with ⟨hd, -⟩ | ⟨p', q, hp', hq, h⟩
      · exact absurd hd (not_contains_of_copied hp)
      · obtain rfl := copied_injective hp hp'
        exact .inr ⟨m, q, hm, hq, ih.tail h⟩

end WellFormed

theorem WellFormed.copy (hF : F.WellFormed) (n : NodeId) : (F.copy n).2.WellFormed where
  parent_eq_some_iff _ _ := parent_copy_iff hF
  children_nodup p := by
    by_cases hp : (F.copy n).2.contains p = true
    · rcases (contains_copy hF).1 hp with hp | ⟨m, hm⟩
      · rw [(links_copy_of_contains hp).2]
        exact hF.children_nodup p
      · rw [children, get_copied hm]
        refine (hF.children_nodup m).filterMap fun a a' b ha hb => ?_
        exact copied_injective ha hb
    · rw [children_of_not_contains hp]
      exact List.nodup_nil
  acyclic c h := by
    rcases transGen_copy hF h with h | ⟨m, p, hm, hp, h⟩
    · exact hF.acyclic c h
    · obtain rfl := copied_injective hm hp
      exact hF.acyclic m h

theorem parent_copy (F : Forest) (n : NodeId) : (F.copy n).2.parent (F.copy n).1 = none := by
  rw [parent, get_copied (copied_self F n), if_pos rfl]

end TreeQuery.Forest
