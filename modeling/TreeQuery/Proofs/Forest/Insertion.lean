import TreeQuery.Proofs.Forest.Reachable
import TreeQuery.Proofs.Forest.Replaced

namespace TreeQuery.Forest

variable {F G : Forest} {n m p c : NodeId} {i : Nat}

/-- A forest is what its nodes are: their names and values, their parents and children. -/
theorem eq_of_nodes (hcontains : ∀ m, G.contains m = F.contains m)
    (hlabel : ∀ m, G.label m = F.label m) (hparent : ∀ m, G.parent m = F.parent m)
    (hchildren : ∀ m, G.children m = F.children m) : G = F := by
  have hsize : G.size = F.size := by
    apply Nat.le_antisymm
    · exact size_le_of_contains fun m hm => (hcontains m).symm.trans hm
    · exact size_le_of_contains fun m hm => (hcontains m).trans hm
  refine eq_of_get hsize fun m _ => ?_
  have hname : (G.get m).name = (F.get m).name := name_of_label (hlabel m)
  have hvalue : (G.get m).value = (F.get m).value := value_of_label (hlabel m)
  have hp : (G.get m).parent = (F.get m).parent := hparent m
  have hc : (G.get m).children = (F.get m).children := hchildren m
  revert hname hvalue hp hc
  cases G.get m
  cases F.get m
  rintro rfl rfl rfl rfl
  rfl

def beside (F : Forest) (p c : NodeId) : List NodeId := (F.children p).filter (· != c)

/-- What an insertion leaves: `c` is at its position among the children of `p`, its former parent has
lost it, and all else is as it was. -/
structure Inserted (F : Forest) (p : NodeId) (i : Nat) (c : NodeId) (G : Forest) : Prop where
  contains_eq : ∀ m, G.contains m = F.contains m
  name_eq : ∀ m, G.name m = F.name m
  value_eq : ∀ m, G.value m = F.value m
  parent_self : G.parent c = some p
  parent_other : ∀ m, m ≠ c → G.parent m = F.parent m
  children_parent : G.children p = (F.beside p c).insertIdx i c
  children_former : ∀ q, F.parent c = some q → q ≠ p → G.children q = F.beside q c
  children_other : ∀ m, m ≠ p → F.parent c ≠ some m → G.children m = F.children m

section WellFormed
variable (hF : F.WellFormed)
include hF

theorem erase_eq_beside (p c : NodeId) : (F.children p).erase c = F.beside p c :=
  (hF.children_nodup p).erase_eq_filter c

theorem roomBeside_eq_length (p c : NodeId) : F.roomBeside p c = (F.beside p c).length := by
  rw [roomBeside_eq hF, children_untie hF, erase_eq_beside hF]

theorem isAtOrAbove_eq_false_iff : F.isAtOrAbove c p = false ↔ ¬ F.Within p c := by
  rw [← isAtOrAbove_iff hF, Bool.not_eq_true]

theorem add_eq_insert (p c : NodeId) : F.add p c = F.insert p (F.beside p c).length c := by
  unfold add insert attach
  rw [roomBeside_eq_length hF]
  rfl

theorem insert_eq_cycle_iff :
    F.insert p i c = .error (.cycle (F.name p) (F.name c)) ↔ F.Within p c := by
  unfold insert
  rw [attach_eq_error_iff, isAtOrAbove_iff hF]
  constructor
  · rintro (⟨h, -⟩ | ⟨-, -, h⟩)
    · exact h
    · exact absurd h nofun
  · intro h
    exact .inl ⟨h, rfl⟩

theorem insert_eq_positionOutOfRange_iff :
    F.insert p i c = .error (.positionOutOfRange (F.name p) i (F.beside p c).length) ↔
      ¬ F.Within p c ∧ (F.beside p c).length < i := by
  unfold insert
  rw [attach_eq_error_iff, isAtOrAbove_eq_false_iff hF, roomBeside_eq_length hF, Option.getD_some]
  constructor
  · rintro (⟨-, h⟩ | ⟨h, hlt, -⟩)
    · exact absurd h nofun
    · exact ⟨h, hlt⟩
  · rintro ⟨h, hlt⟩
    exact .inr ⟨h, hlt, rfl⟩

theorem inserted_tie_untie (hp : F.contains p = true) (hc : F.contains c = true) (i : Nat) :
    F.Inserted p i c ((F.untie c).2.tie p i c) := by
  have hchildren (m : NodeId) : ((F.untie c).2.tie p i c).children m =
      if m = p then (F.beside p c).insertIdx i c else F.beside m c := by
    rw [children_tie _ (by rwa [contains_untie]), children_untie hF, children_untie hF,
      erase_eq_beside hF, erase_eq_beside hF]
  have hparent (m : NodeId) : ((F.untie c).2.tie p i c).parent m =
      if m = c then some p else F.parent m := by
    rw [parent_tie _ (by rwa [contains_untie]), parent_untie]
    split <;> rfl
  have hlabel (m : NodeId) : ((F.untie c).2.tie p i c).label m = F.label m := by
    rw [label_tie, label_untie]
  refine ⟨fun m => ?_, fun m => name_of_label (hlabel m), fun m => value_of_label (hlabel m), ?_,
    fun m hm => ?_, ?_, fun q _ hq => ?_, fun m hm hne => ?_⟩
  · rw [contains_tie, contains_untie]
  · rw [hparent, if_pos rfl]
  · rw [hparent, if_neg hm]
  · rw [hchildren, if_pos rfl]
  · rw [hchildren, if_neg hq]
  · rw [hchildren, if_neg hm, ← erase_eq_beside hF]
    exact List.erase_of_not_mem fun hmem => hne (hF.parent_of_mem hmem)

theorem exists_insert (hp : F.contains p = true) (hc : F.contains c = true)
    (h : ¬ F.Within p c) (hi : i ≤ (F.beside p c).length) :
    ∃ G, F.insert p i c = .ok G ∧ F.Inserted p i c G := by
  refine ⟨_, ?_, inserted_tie_untie hF hp hc i⟩
  unfold insert
  rw [attach_eq_ok_iff, isAtOrAbove_eq_false_iff hF, roomBeside_eq_length hF]
  exact ⟨h, hi, rfl⟩

theorem insertIdx_position (hp : F.parent c = some p) (hi : F.position? c = some i) :
    (F.beside p c).insertIdx i c = F.children p := by
  obtain ⟨j, hj, hget⟩ := position?_of_parent hF hp
  obtain rfl : i = j := Option.some.inj (hi.symm.trans hj)
  obtain ⟨hlt, hc⟩ := List.getElem?_eq_some_iff.1 hget
  have herase : F.beside p c = (F.children p).eraseIdx i := by
    rw [← erase_eq_beside hF, List.erase_eq_eraseIdx, ← position?_eq hp, hi]
  have hback := List.insertIdx_eraseIdx_getElem hlt
  rw [herase]
  rwa [hc] at hback

theorem insert_untie (hp : F.parent c = some p) (h : F.untie c = (some i, G)) :
    G.insert p i c = .ok F := by
  have hcc := contains_of_parent hp
  have hcp := hF.contains_parent hp
  have hG : G = (F.untie c).2 := by rw [h]
  have hi : F.position? c = some i := by
    rw [untie, hp] at h
    exact congrArg Prod.fst h
  have hback := insertIdx_position hF hp hi
  have hroot : G.parent c = none := by
    rw [hG, parent_untie, if_pos rfl]
  have hsame : (G.untie c).2 = G := by
    rw [untie, hroot]
  have hwf : G.WellFormed := hG ▸ hF.untie c
  have hbeside : G.beside p c = F.beside p c := by
    rw [← erase_eq_beside hwf, hG, children_untie hF, erase_eq_beside hF]
    exact List.erase_of_not_mem fun hm => by simp [beside] at hm
  have hrestored : G.tie p i c = F := by
    have hinserted := inserted_tie_untie hF hcp hcc i
    rw [← hG] at hinserted
    apply eq_of_nodes hinserted.contains_eq
    · intro m
      exact Prod.ext (hinserted.name_eq m) (hinserted.value_eq m)
    · intro m
      by_cases hm : m = c
      · rw [hm, hinserted.parent_self, hp]
      · exact hinserted.parent_other m hm
    · intro m
      by_cases hm : m = p
      · rw [hm, hinserted.children_parent, hback]
      · refine hinserted.children_other m hm fun e => hm ?_
        exact Option.some.inj (e.symm.trans hp)
  -- beyond the other children the node would not be put among them again
  have hlength : i ≤ (F.beside p c).length := by
    by_contra hlt
    rw [List.insertIdx_of_length_lt (Nat.lt_of_not_le hlt)] at hback
    have hmem := hF.mem_children hp
    rw [← hback] at hmem
    simp [beside] at hmem
  unfold insert
  rw [attach_eq_ok_iff, isAtOrAbove_eq_false_iff hwf, roomBeside_eq_length hwf, hsame, hbeside]
  refine ⟨fun hw => ?_, hlength, hrestored.symm⟩
  rw [hG] at hw
  exact hF.acyclic c (.head' hp (within_of_within_untie hw))

end WellFormed

/-- An insertion is refused exactly if the new parent is within the node, or else if there are fewer
other children than the position asks for, and then nothing changes; in all other cases it has its
effect and no other. Adding is insertion after all other children. What has been taken out can be put
back at its position, and the forest is as it was. -/
theorem insert_has_its_effect_or_none (h : F.Reachable) (hp : F.contains p = true)
    (hc : F.contains c = true) (i : Nat) :
    (F.insert p i c = .error (.cycle (F.name p) (F.name c)) ↔ F.Within p c) ∧
    (F.insert p i c = .error (.positionOutOfRange (F.name p) i (F.beside p c).length) ↔
      ¬ F.Within p c ∧ (F.beside p c).length < i) ∧
    (∀ e, F.insert p i c = .error e → (Edit.insert p i c).run F = F) ∧
    (¬ F.Within p c → i ≤ (F.beside p c).length →
      ∃ G, F.insert p i c = .ok G ∧ (Edit.insert p i c).run F = G ∧ F.Inserted p i c G) ∧
    F.add p c = F.insert p (F.beside p c).length c ∧
    ∀ G, F.parent c = some p → F.untie c = (some i, G) → G.insert p i c = .ok F := by
  have hF := h.wellFormed
  refine ⟨insert_eq_cycle_iff hF, insert_eq_positionOutOfRange_iff hF, fun e he => ?_,
    fun hw hi => ?_, add_eq_insert hF p c, fun G => insert_untie hF⟩
  · rw [Edit.run, he]
    rfl
  · obtain ⟨G, hG, hinserted⟩ := exists_insert hF hp hc hw hi
    refine ⟨G, hG, ?_, hinserted⟩
    rw [Edit.run, hG]
    rfl

/-- The first of three children goes to the last position, not further, and back to its own. -/
theorem insert_has_its_effect_or_none_moved :
    let F := [Edit.create "r" .null, .create "a" .null, .create "b" .null, .create "c" .null,
      .add ⟨0⟩ ⟨1⟩, .add ⟨0⟩ ⟨2⟩, .add ⟨0⟩ ⟨3⟩].foldl Edit.run {}
    F.Reachable ∧ ¬ F.Within ⟨0⟩ ⟨1⟩ ∧
      (∃ G, F.insert ⟨0⟩ 2 ⟨1⟩ = .ok G ∧ G.children ⟨0⟩ = [⟨2⟩, ⟨3⟩, ⟨1⟩]) ∧
      F.insert ⟨0⟩ 3 ⟨1⟩ = .error (.positionOutOfRange "r" 3 2) ∧
      (F.untie ⟨1⟩).2.insert ⟨0⟩ 0 ⟨1⟩ = .ok F := by
  intro F
  have hF : F.Reachable := Reachable.empty.foldl (by decide +kernel)
  have hw : ¬ F.Within ⟨0⟩ ⟨1⟩ :=
    (isAtOrAbove_eq_false_iff hF.wellFormed).1 (by decide +kernel)
  have hp : F.contains ⟨0⟩ = true := by decide +kernel
  have hc : F.contains ⟨1⟩ = true := by decide +kernel
  obtain ⟨-, -, -, hmoved, -, -⟩ := insert_has_its_effect_or_none hF hp hc 2
  obtain ⟨-, hrange, -⟩ := insert_has_its_effect_or_none hF hp hc 3
  obtain ⟨-, -, -, -, -, hback⟩ := insert_has_its_effect_or_none hF hp hc 0
  obtain ⟨G, hG, -, hinserted⟩ := hmoved hw (by decide +kernel)
  refine ⟨hF, hw, ⟨G, hG, ?_⟩, hrange.2 ⟨hw, by decide +kernel⟩, hback _ ?_ ?_⟩
  · rw [hinserted.children_parent]
    decide +kernel
  · decide +kernel
  · exact Prod.ext (by decide +kernel) rfl

end TreeQuery.Forest
