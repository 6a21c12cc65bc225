import TreeQuery.Proofs.Forest.Copy

namespace TreeQuery.Forest

variable {F : Forest} {n m p c r : NodeId}

theorem add_eq_adopt (hF : F.WellFormed) (h : F.isAtOrAbove n p = false) :
    F.add p n = .ok (F.adopt p n) := by
  rw [add, attach_eq_ok_iff]
  refine ⟨h, le_rfl, ?_⟩
  rw [adopt, ← roomBeside_eq hF]
  rfl

theorem foldlM_add {cs : List NodeId} (hF : F.WellFormed) (h : F.CanTakeOver n cs) :
    cs.foldlM (fun F c => F.add n c) F = .ok (cs.foldl (fun F c => F.adopt n c) F) := by
  induction cs generalizing F with
  | nil => rfl
  | cons c cs ih =>
    have ha : F.isAtOrAbove c n = false := by
      rw [isAtOrAbove, lineage_of_root h.root]
      simpa using h.head.2
    rw [List.foldlM_cons, add_eq_adopt hF ha]
    exact ih (hF.adopt h) h.adopt

/-- What stood above a node before copying is all that stands above it afterwards. -/
theorem not_within_copy (hF : F.WellFormed) (hp : F.contains p = true) :
    ¬ (F.copy r).2.Within p (F.copy r).1 := by
  have hc := not_contains_of_copied (copied_self F r)
  intro h
  rcases Relation.reflTransGen_iff_eq_or_transGen.1 h with h | h
  · rw [h] at hc
    exact hc hp
  · rcases transGen_copy hF h with h | ⟨m, -, hm, -⟩
    · obtain ⟨q, -, hq⟩ := Relation.TransGen.tail'_iff.1 h
      exact hc (hF.contains_parent hq)
    · exact not_contains_of_copied hm hp

theorem replace_of_parent (hF : F.WellFormed) (hp : F.parent n = some p) {i : Nat}
    (hi : F.position? n = some i) :
    F.replace n r = .ok (((F.copy r).2.untie n).2.tie p i (F.copy r).1) := by
  have hn := contains_of_parent hp
  have hG := hF.copy r
  have hcp : F.contains p = true := hF.contains_parent hp
  have hp' : (F.copy r).2.parent n = some p := by rw [(links_copy_of_contains hn).1, hp]
  have hi' : (F.copy r).2.position? n = some i := by
    rw [← hi, position?_eq hp, position?_eq hp', (links_copy_of_contains hcp).2]
  have hroot : ((F.copy r).2.untie n).2.parent (F.copy r).1 = none := by
    rw [parent_untie, parent_copy, ite_self]
  have hsame : (((F.copy r).2.untie n).2.untie (F.copy r).1).2 = ((F.copy r).2.untie n).2 := by
    rw [Forest.untie, hroot]
  rw [replace]
  simp only [hp', hi', insert]
  -- the position is that of a child just taken out, so there is room for it
  rw [attach_eq_ok_iff]
  refine ⟨?_, ?_, by rw [hsame]; rfl⟩
  · rw [← Bool.not_eq_true, isAtOrAbove_iff (hG.untie n)]
    exact fun h => not_within_copy hF hcp (within_of_within_untie h)
  · obtain ⟨j, hj, hget⟩ := position?_of_parent hG hp'
    obtain rfl : i = j := Option.some.inj (hi'.symm.trans hj)
    have hlt := (List.getElem?_eq_some_iff.1 hget).1
    rw [roomBeside_eq (hG.untie n), hsame, children_untie hG, List.length_erase,
      if_pos (hG.mem_children hp')]
    show i ≤ _
    omega

/-- The forest in which `n` has taken over the name and the value of a copy of `r`. -/
def relabelled (F : Forest) (n r : NodeId) : Forest :=
  let c := (F.copy r).1
  let G := (F.copy r).2
  (G.setName n (G.name c)).setValue n (G.value c)

/-- The forest in which, moreover, the children of both are roots. -/
def emptied (F : Forest) (n r : NodeId) : Forest :=
  (((F.relabelled n r).untieChildren n).2.untieChildren (F.copy r).1).2

@[simp] theorem parent_relabelled (F : Forest) (n r m : NodeId) :
    (F.relabelled n r).parent m = (F.copy r).2.parent m := by
  rw [relabelled, parent_setValue, parent_setName]

@[simp] theorem children_relabelled (F : Forest) (n r m : NodeId) :
    (F.relabelled n r).children m = (F.copy r).2.children m := by
  rw [relabelled, children_setValue, children_setName]

theorem WellFormed.relabelled (hF : F.WellFormed) (n r : NodeId) :
    (F.relabelled n r).WellFormed :=
  (hF.copy r).of_links (parent_relabelled F n r) (children_relabelled F n r)

@[simp] theorem contains_emptied (F : Forest) (n r m : NodeId) :
    (F.emptied n r).contains m = (F.copy r).2.contains m := by
  rw [emptied, contains_untieChildren, contains_untieChildren, relabelled, contains_setValue,
    contains_setName]

theorem WellFormed.emptied (hF : F.WellFormed) (n r : NodeId) : (F.emptied n r).WellFormed :=
  ((hF.relabelled n r).untieChildren n).untieChildren _

theorem parent_emptied (hF : F.WellFormed) (hroot : (F.copy r).2.parent n = none) :
    (F.emptied n r).parent n = none := by
  have h := hF.relabelled n r
  rw [emptied, parent_untieChildren (h.untieChildren n), parent_untieChildren h,
    parent_relabelled, hroot]
  simp

theorem canTakeOver_emptied (hF : F.WellFormed) (hn : F.contains n = true)
    (hroot : F.parent n = none) (r : NodeId) :
    (F.emptied n r).CanTakeOver n ((F.copy r).2.children (F.copy r).1) := by
  have hroot' : (F.copy r).2.parent n = none := by rw [(links_copy_of_contains hn).1, hroot]
  refine ⟨?_, parent_emptied hF hroot', fun c hc => ⟨?_, ?_⟩⟩
  · rw [contains_emptied]
    exact (contains_copy hF).2 (.inl hn)
  · rw [contains_emptied]
    exact (hF.copy r).contains_child hc
  · rintro rfl
    rw [(hF.copy r).parent_of_mem hc] at hroot'
    exact absurd hroot' nofun

theorem replace_of_root (hF : F.WellFormed) (hn : F.contains n = true)
    (hroot : F.parent n = none) :
    F.replace n r = .ok (((F.copy r).2.children (F.copy r).1).foldl
      (fun F c => F.adopt n c) (F.emptied n r)) := by
  have hroot' : (F.copy r).2.parent n = none := by rw [(links_copy_of_contains hn).1, hroot]
  have hne : (F.copy r).1 ≠ n := by
    rintro rfl
    exact not_contains_of_copied (copied_self F r) hn
  have hc : ((F.relabelled n r).untieChildren n).2.children (F.copy r).1 =
      (F.copy r).2.children (F.copy r).1 := by
    rw [children_untieChildren, if_neg hne, children_relabelled]
  have hreplace : F.replace n r = (((F.relabelled n r).untieChildren n).2.children
      (F.copy r).1).foldlM (fun F c => F.add n c) (F.emptied n r) := by
    rw [replace]
    simp only [hroot', fst_untieChildren, emptied, relabelled]
  rw [hreplace, hc]
  exact foldlM_add (hF.emptied n r) (canTakeOver_emptied hF hn hroot r)

/-- A replacement succeeds, and leaves a forest of trees. -/
theorem exists_replace (hF : F.WellFormed) (hn : F.contains n = true) (r : NodeId) :
    ∃ G, F.replace n r = .ok G ∧ G.WellFormed := by
  have hG := hF.copy r
  cases hp : F.parent n with
  | none =>
    exact ⟨_, replace_of_root hF hn hp,
      (hF.emptied n r).foldl_adopt (canTakeOver_emptied hF hn hp r)⟩
  | some p =>
    obtain ⟨i, hi, hget⟩ := position?_of_parent hF hp
    have hcp := hF.contains_parent hp
    have hcp' : (F.copy r).2.contains p = true := (contains_copy hF).2 (.inl hcp)
    have hp' : (F.copy r).2.parent n = some p := by rw [(links_copy_of_contains hn).1, hp]
    have hlt := (List.getElem?_eq_some_iff.1 hget).1
    refine ⟨_, replace_of_parent hF hp hi, (hG.untie n).tie ?_ ?_ ?_ ?_ ?_⟩
    · rw [contains_untie]
      exact (contains_copy hF).2 (.inr ⟨r, copied_self F r⟩)
    · rwa [contains_untie]
    · rw [parent_untie, parent_copy, ite_self]
    · exact fun h => not_within_copy hF hcp (within_of_within_untie h)
    · rw [children_untie hG, List.length_erase, if_pos (hG.mem_children hp'),
        (links_copy_of_contains hcp).2]
      omega

end TreeQuery.Forest
