import TreeQuery.Proofs.Forest.Carried
import TreeQuery.Proofs.Forest.TakenOver

namespace TreeQuery
namespace Forest

variable {F G : Forest} {n m p c r : NodeId}

theorem label_setName_setValue (hn : F.contains n = true) (s : String) (v : Value) (m : NodeId) :
    ((F.setName n s).setValue n v).label m = if m = n then (s, v) else F.label m := by
  have hn' := contains_iff.1 hn
  rw [label, name, value]
  split
  · next h =>
    rw [h, setValue, get_update_self _ n _ (by rwa [setName, size_update]), setName,
      get_update_self F n _ hn']
  · next h =>
    rw [setValue, get_update_of_ne _ _ h, setName, get_update_of_ne F _ h]
    rfl

theorem label_emptied (hn : (F.copy r).2.contains n = true) (m : NodeId) :
    (F.emptied n r).label m =
      if m = n then (F.copy r).2.label (F.copy r).1 else (F.copy r).2.label m := by
  rw [emptied, label_untieChildren, label_untieChildren, relabelled,
    label_setName_setValue hn]
  split <;> rfl

theorem children_emptied (F : Forest) (n r m : NodeId) : (F.emptied n r).children m =
    if m = (F.copy r).1 ∨ m = n then [] else (F.copy r).2.children m := by
  rw [emptied, children_untieChildren, children_untieChildren, children_relabelled]
  by_cases hc : m = (F.copy r).1
  · rw [if_pos hc, if_pos (.inl hc)]
  · by_cases hn : m = n
    · rw [if_neg hc, if_pos hn, if_pos (.inr hn)]
    · rw [if_neg hc, if_neg hn, if_neg (not_or.2 ⟨hc, hn⟩)]

theorem parent_emptied_of_child (hF : F.WellFormed) (hm : (F.copy r).2.parent m = some (F.copy r).1)
    (hne : (F.copy r).1 ≠ n) : (F.emptied n r).parent m = none := by
  have h := hF.relabelled n r
  rw [emptied, parent_untieChildren (h.untieChildren n), parent_untieChildren h, parent_relabelled,
    hm, if_neg fun e => hne (Option.some.inj e), if_pos rfl]

theorem children_tie_untie (hF : F.WellFormed) (hp : F.parent n = some p) (i : Nat) (c m : NodeId) :
    ((F.untie n).2.tie p i c).children m =
      if m = p then ((F.children p).erase n).insertIdx i c else F.children m := by
  rw [children_tie _ (by rw [contains_untie]; exact hF.contains_parent hp), children_untie hF,
    children_untie hF]
  split
  · rfl
  · next hm =>
    refine List.erase_of_not_mem fun h => hm ?_
    exact Option.some.inj ((hF.parent_of_mem h).symm.trans hp)

theorem carries_id_of_label (hl : ∀ m, F.Within m r → G.label m = F.label m)
    (hc : ∀ m, F.Within m r → G.children m = F.children m) : Carries F G id r :=
  carries_id (fun m hm => name_of_label (hl m hm)) hc

/-- No copy has a node of before in its subtree, and no node of before a copy. -/
theorem within_copy_iff (hF : F.WellFormed) (hn : F.contains n = true) :
    (F.copy r).2.Within m n ↔ F.Within m n := by
  constructor
  · intro h
    rcases Relation.reflTransGen_iff_eq_or_transGen.1 h with rfl | h
    · exact .refl
    · rcases transGen_copy hF h with h | ⟨-, p, -, hp, -⟩
      · exact h.to_reflTransGen
      · exact absurd hn (not_contains_of_copied hp)
  · exact (carries_copy_of_contains hn r).within hF (hF.copy r)

theorem size_le_of_contains (h : ∀ m, F.contains m = true → G.contains m = true) :
    F.size ≤ G.size := by
  by_contra hlt
  exact Nat.lt_irrefl G.size (contains_iff.1 (h ⟨G.size⟩ (contains_iff.2 (Nat.lt_of_not_le hlt))))

/-- What has come of a forest in which `n` has been replaced by a copy of `r`, which `f` takes to its
place: trees that `n` was no part of are as before. -/
structure Replaced (F : Forest) (n r : NodeId) (f : NodeId → NodeId) (G : Forest) : Prop where
  wellFormed : G.WellFormed
  size_le : (F.copy r).2.size ≤ G.size
  carries : Carries (F.copy r).2 G f (F.copy r).1
  label_eq : ∀ m, (F.copy r).2.Within m (F.copy r).1 → G.label (f m) = (F.copy r).2.label m
  apart : ∀ t, F.contains t = true → ¬ F.Within n t → Carries (F.copy r).2 G id t ∧
    ∀ m, (F.copy r).2.Within m t → G.label m = (F.copy r).2.label m
  of_child : ∀ p, F.parent n = some p → (∀ m, f m = m) ∧
    ∃ i, F.position? n = some i ∧ (G.children p)[i]? = some (F.copy r).1
  of_root : F.parent n = none → f (F.copy r).1 = n ∧ (∀ m, m ≠ (F.copy r).1 → f m = m) ∧
    G.parent (F.copy r).1 = none ∧ G.children (F.copy r).1 = []

theorem replaced_of_parent (hF : F.WellFormed) (hp : F.parent n = some p) (r : NodeId) :
    ∃ G, F.replace n r = .ok G ∧ Replaced F n r id G := by
  have hn := contains_of_parent hp
  have hcp := hF.contains_parent hp
  have hC := hF.copy r
  have hp' : (F.copy r).2.parent n = some p := by rw [(links_copy_of_contains hn).1, hp]
  obtain ⟨i, hi, hget⟩ := position?_of_parent hF hp
  obtain ⟨G, hG, hwf⟩ := exists_replace hF hn r
  have hdef := Except.ok.inj (hG.symm.trans (replace_of_parent hF hp hi))
  have hcontains (m : NodeId) : G.contains m = (F.copy r).2.contains m := by
    rw [hdef, contains_tie, contains_untie]
  have hlabel (m : NodeId) : G.label m = (F.copy r).2.label m := by
    rw [hdef, label_tie, label_untie]
  have hchildren (m : NodeId) : G.children m = if m = p then
      (((F.copy r).2.children p).erase n).insertIdx i (F.copy r).1
      else (F.copy r).2.children m := by
    rw [hdef, children_tie_untie hC hp']
  have hcarries {t : NodeId} (ht : ¬ (F.copy r).2.Within p t) : Carries (F.copy r).2 G id t := by
    refine carries_id_of_label (fun m _ => hlabel m) fun m hm => ?_
    rw [hchildren, if_neg]
    rintro rfl
    exact ht hm
  refine ⟨G, hG, hwf, ?_, hcarries (not_within_copy hF hcp), fun m _ => hlabel m, ?_, ?_, ?_⟩
  · exact size_le_of_contains fun m hm => (hcontains m).trans hm
  · refine fun t ht hnt => ⟨hcarries fun hpt => hnt ?_, fun m _ => hlabel m⟩
    exact .head hp ((within_copy_iff hF ht).1 hpt)
  · intro q hq
    obtain rfl := Option.some.inj (hp.symm.trans hq)
    have hlt := (List.getElem?_eq_some_iff.1 hget).1
    refine ⟨fun _ => rfl, i, hi, ?_⟩
    rw [hchildren, if_pos rfl, (links_copy_of_contains hcp).2, List.getElem?_insertIdx_self,
      List.length_erase_of_mem (hF.mem_children hp), if_pos (by omega)]
  · intro hroot
    exact absurd (hp.symm.trans hroot) nofun

def standIn (c n m : NodeId) : NodeId := if m = c then n else m

theorem standIn_self (c n : NodeId) : standIn c n c = n := if_pos rfl

theorem standIn_of_ne (h : m ≠ c) (n : NodeId) : standIn c n m = m := if_neg h

/-- The children of the copy are roots for a moment, as those of the node remain. -/
theorem exists_replace_root (hF : F.WellFormed) (hn : F.contains n = true)
    (hroot : F.parent n = none) (r : NodeId) : ∃ G, F.replace n r = .ok G ∧ G.WellFormed ∧
      (∀ m, G.contains m = (F.copy r).2.contains m) ∧
      (∀ m, G.label m =
        if m = n then (F.copy r).2.label (F.copy r).1 else (F.copy r).2.label m) ∧
      ∀ m, G.children m = if m = n then (F.copy r).2.children (F.copy r).1
        else if m = (F.copy r).1 then [] else (F.copy r).2.children m := by
  have hC := hF.copy r
  have hn' : (F.copy r).2.contains n = true := (contains_copy hF).2 (.inl hn)
  have hne : (F.copy r).1 ≠ n := by
    rintro rfl
    exact not_contains_of_copied (copied_self F r) hn
  obtain ⟨G, hG, hwf⟩ := exists_replace hF hn r
  have hdef := Except.ok.inj (hG.symm.trans (replace_of_root hF hn hroot))
  have htaken := takenOver_foldl_adopt (hF.emptied n r) (canTakeOver_emptied hF hn hroot r)
  rw [← hdef] at htaken
  refine ⟨G, hG, hwf, fun m => ?_, fun m => ?_, fun m => ?_⟩
  · rw [htaken.contains_eq, contains_emptied]
  · rw [htaken.label_eq, label_emptied hn']
  · rw [htaken.children_of_roots (hF.emptied n r) ?_ (hC.children_nodup _), children_emptied,
      children_emptied]
    · by_cases hm : m = n <;> simp [hm]
    · exact fun d hd => parent_emptied_of_child hF (hC.parent_of_mem hd) hne

theorem carries_standIn (hF : F.WellFormed) (hc : F.parent c = none) (hn : ¬ F.Within n c)
    (hself : G.label n = F.label c ∧ G.children n = F.children c)
    (hsame : ∀ m, m ≠ n → m ≠ c → G.label m = F.label m ∧ G.children m = F.children m) :
    Carries F G (standIn c n) c ∧ ∀ m, F.Within m c → G.label (standIn c n m) = F.label m := by
  have hne {m : NodeId} (hm : F.Within m c) : m ≠ n := fun e => hn (e ▸ hm)
  have hlinks (m : NodeId) (hm : F.Within m c) :
      G.label (standIn c n m) = F.label m ∧ G.children (standIn c n m) = F.children m := by
    by_cases h : m = c
    · rw [h, standIn_self]
      exact hself
    · rw [standIn_of_ne h]
      exact hsame m (hne hm) h
  refine ⟨⟨fun m hm => name_of_label (hlinks m hm).1, fun m hm => ?_, ?_⟩,
    fun m hm => (hlinks m hm).1⟩
  · refine (hlinks m hm).2.trans ((List.map_congr_left fun d hd => ?_).trans (List.map_id _)).symm
    refine standIn_of_ne ?_ n
    rintro rfl
    exact absurd ((hF.parent_of_mem hd).symm.trans hc) nofun
  · intro m m' hm hm' he
    rw [standIn, standIn] at he
    split_ifs at he with h h' h'
    · exact h.trans h'.symm
    · exact absurd he.symm (hne hm')
    · exact absurd he (hne hm)
    · exact he

theorem replaced_of_root (hF : F.WellFormed) (hn : F.contains n = true) (hroot : F.parent n = none)
    (r : NodeId) : ∃ G, F.replace n r = .ok G ∧ Replaced F n r (standIn (F.copy r).1 n) G := by
  have hC := hF.copy r
  have hc := parent_copy F r
  have hcn : ¬ F.contains (F.copy r).1 = true := not_contains_of_copied (copied_self F r)
  have hne : (F.copy r).1 ≠ n := fun e => hcn (e ▸ hn)
  obtain ⟨G, hG, hwf, hcontains, hlabel, hchildren⟩ := exists_replace_root hF hn hroot r
  have hsame (m : NodeId) (hm : m ≠ n) (hm' : m ≠ (F.copy r).1) :
      G.label m = (F.copy r).2.label m ∧ G.children m = (F.copy r).2.children m := by
    rw [hlabel, hchildren, if_neg hm, if_neg hm, if_neg hm']
    exact ⟨rfl, rfl⟩
  obtain ⟨hcarries, hlabel'⟩ := carries_standIn hC hc (not_within_copy hF hn)
    ⟨by rw [hlabel, if_pos rfl], by rw [hchildren, if_pos rfl]⟩ hsame
  refine ⟨G, hG, hwf, ?_, hcarries, hlabel', fun t ht hnt => ?_, fun p hp => ?_, fun _ => ?_⟩
  · exact size_le_of_contains fun m hm => (hcontains m).trans hm
  · have hmem (m : NodeId) (hm : (F.copy r).2.Within m t) :
        G.label m = (F.copy r).2.label m ∧ G.children m = (F.copy r).2.children m := by
      have hm := (within_copy_iff hF ht).1 hm
      refine hsame m (fun e => hnt (e ▸ hm)) fun e => hcn ?_
      exact e ▸ contains_of_within ht hm
    exact ⟨carries_id_of_label (fun m hm => (hmem m hm).1) fun m hm => (hmem m hm).2,
      fun m hm => (hmem m hm).1⟩
  · exact absurd (hp.symm.trans hroot) nofun
  · refine ⟨standIn_self _ n, fun m hm => standIn_of_ne hm n, ?_, ?_⟩
    · -- what is no child after copying is none of the node or of others
      cases hp : G.parent (F.copy r).1 with
      | none => rfl
      | some q =>
        have hq := hwf.mem_children hp
        have hnot (q : NodeId) : (F.copy r).1 ∉ (F.copy r).2.children q := fun h =>
          absurd ((hC.parent_of_mem h).symm.trans hc) nofun
        rw [hchildren] at hq
        split_ifs at hq with h h'
        · exact absurd hq (hnot _)
        · exact absurd hq List.not_mem_nil
        · exact absurd hq (hnot q)
    · rw [hchildren, if_neg hne, if_pos rfl]

theorem exists_replaced (hF : F.WellFormed) (hn : F.contains n = true) (r : NodeId) :
    ∃ G f, F.replace n r = .ok G ∧ Replaced F n r f G := by
  cases hp : F.parent n with
  | none =>
    obtain ⟨G, hG, h⟩ := replaced_of_root hF hn hp r
    exact ⟨G, _, hG, h⟩
  | some p =>
    obtain ⟨G, hG, h⟩ := replaced_of_parent hF hp r
    exact ⟨G, _, hG, h⟩

end Forest
end TreeQuery
