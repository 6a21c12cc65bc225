import TreeQuery.Proofs.Forest.Lineage

namespace TreeQuery.Forest

variable {F G : Forest} {n m p c : NodeId}

theorem parent_untie (F : Forest) (n m : NodeId) :
    (F.untie n).2.parent m = if m = n then none else F.parent m := by
  unfold untie
  split
  · next h =>
    split
    · next hm => rw [hm]; exact h
    · rfl
  · rw [parent_setParent_none, parent_setChildren]

/-- Only the list of the parent has the node to lose. -/
theorem children_untie (hF : F.WellFormed) (n m : NodeId) :
    (F.untie n).2.children m = (F.children m).erase n := by
  have hne : F.parent n ≠ some m → (F.children m).erase n = F.children m := fun h =>
    List.erase_of_not_mem fun hm => h (hF.parent_of_mem hm)
  unfold untie
  split
  · next h => rw [hne (by rw [h]; exact nofun)]
  · next p h =>
    rw [children_setParent, children_setChildren F p m _ (hF.contains_parent h)]
    split
    · next hm => rw [hm]
    · next hm => rw [hne (by rw [h]; exact fun e => hm (Option.some.inj e).symm)]

@[simp] theorem contains_untie (F : Forest) (n m : NodeId) :
    (F.untie n).2.contains m = F.contains m := by
  unfold untie
  split
  · rfl
  · rw [contains_setParent, contains_setChildren]

/-- Fewer links on both sides are again those of trees. -/
theorem WellFormed.of_fewer_links (hF : F.WellFormed)
    (hp : ∀ c p, G.parent c = some p → F.parent c = some p)
    (hc : ∀ c p, G.parent c = some p ↔ c ∈ G.children p)
    (hn : ∀ p, (G.children p).Nodup) : G.WellFormed where
  parent_eq_some_iff := hc
  children_nodup := hn
  acyclic n h := hF.acyclic n (Relation.TransGen.mono (fun a b hab => hp a b hab) _ _ h)

theorem WellFormed.untie (hF : F.WellFormed) (n : NodeId) : (F.untie n).2.WellFormed := by
  refine hF.of_fewer_links (fun c p h => ?_) (fun c p => ?_) fun p => ?_
  · rw [parent_untie] at h
    split at h
    · exact absurd h nofun
    · exact h
  · rw [parent_untie, children_untie hF, (hF.children_nodup p).mem_erase_iff,
      ← hF.parent_eq_some_iff]
    split
    · next h => simp [h]
    · next h => simp [h]
  · rw [children_untie hF]
    exact (hF.children_nodup p).erase n

@[simp] theorem fst_untieChildren (F : Forest) (n : NodeId) :
    (F.untieChildren n).1 = F.children n := rfl

theorem parent_foldl_setParent_none (cs : List NodeId) (F : Forest) (m : NodeId) :
    (cs.foldl (fun F c => F.setParent c none) F).parent m =
      if m ∈ cs then none else F.parent m := by
  induction cs generalizing F with
  | nil => simp
  | cons c cs ih =>
    rw [List.foldl_cons, ih, parent_setParent_none]
    by_cases h : m = c <;> simp [h]

theorem children_foldl_setParent (cs : List NodeId) (q : Option NodeId) (F : Forest)
    (m : NodeId) :
    (cs.foldl (fun F c => F.setParent c q) F).children m = F.children m := by
  induction cs generalizing F with
  | nil => rfl
  | cons c cs ih => rw [List.foldl_cons, ih, children_setParent]

theorem contains_foldl_setParent (cs : List NodeId) (q : Option NodeId) (F : Forest)
    (m : NodeId) :
    (cs.foldl (fun F c => F.setParent c q) F).contains m = F.contains m := by
  induction cs generalizing F with
  | nil => rfl
  | cons c cs ih => rw [List.foldl_cons, ih, contains_setParent]

theorem parent_untieChildren (hF : F.WellFormed) (n m : NodeId) :
    (F.untieChildren n).2.parent m = if F.parent m = some n then none else F.parent m := by
  rw [untieChildren, parent_foldl_setParent_none, parent_setChildren]
  simp only [hF.parent_eq_some_iff]

theorem children_untieChildren (F : Forest) (n m : NodeId) :
    (F.untieChildren n).2.children m = if m = n then [] else F.children m := by
  rw [untieChildren, children_foldl_setParent]
  by_cases h : F.contains n = true
  · exact children_setChildren F n m [] h
  · rw [setChildren, children, get_update, if_neg (fun hm => h hm.2)]
    split
    · next hm => rw [hm]; exact children_of_not_contains h
    · rfl

@[simp] theorem contains_untieChildren (F : Forest) (n m : NodeId) :
    (F.untieChildren n).2.contains m = F.contains m := by
  rw [untieChildren, contains_foldl_setParent, contains_setChildren]

theorem WellFormed.untieChildren (hF : F.WellFormed) (n : NodeId) :
    (F.untieChildren n).2.WellFormed := by
  refine hF.of_fewer_links (fun c p h => ?_) (fun c p => ?_) fun p => ?_
  · rw [parent_untieChildren hF] at h
    split at h
    · exact absurd h nofun
    · exact h
  · rw [parent_untieChildren hF, children_untieChildren]
    by_cases hp : p = n
    · subst hp
      split
      · simp
      · next hc => simp [hc]
    · rw [if_neg hp, ← hF.parent_eq_some_iff]
      split
      · next hc => simp [hc, Ne.symm hp]
      · rfl
  · rw [children_untieChildren]
    split
    · exact List.nodup_nil
    · exact hF.children_nodup p

theorem parent_tie (F : Forest) (hn : F.contains n = true) (p : NodeId) (i : Nat) (m : NodeId) :
    (F.tie p i n).parent m = if m = n then some p else F.parent m := by
  rw [tie, parent_setChildren, parent_setParent F n m _ hn]

theorem children_tie (F : Forest) (hp : F.contains p = true) (i : Nat) (n m : NodeId) :
    (F.tie p i n).children m = if m = p then (F.children p).insertIdx i n else F.children m := by
  rw [tie, children_setChildren _ _ _ _ (by rwa [contains_setParent]), children_setParent]

@[simp] theorem contains_tie (F : Forest) (p : NodeId) (i : Nat) (n m : NodeId) :
    (F.tie p i n).contains m = F.contains m := by
  rw [tie, contains_setChildren, contains_setParent]

/-- A walk up that uses the new link comes by the node and goes on from the new parent. -/
theorem transGen_tie (hn : F.contains n = true) {i : Nat} {a b : NodeId}
    (h : Relation.TransGen (F.tie p i n).Under a b) :
    Relation.TransGen F.Under a b ∨ F.Within a n ∧ F.Within p b := by
  have step : ∀ {a b}, (F.tie p i n).Under a b → F.Under a b ∨ a = n ∧ b = p := by
    intro a b h
    rw [Under, parent_tie F hn] at h
    split at h
    · next ha => exact .inr ⟨ha, (Option.some.inj h).symm⟩
    · exact .inl h
  -- along the walk: once it has taken the new link, only what lies above `p` can follow
  induction h with
  | single h =>
    rcases step h with h | ⟨rfl, rfl⟩
    · exact .inl (.single h)
    · exact .inr ⟨.refl, .refl⟩
  | tail _ h ih =>
    rcases step h with h | ⟨rfl, rfl⟩
    · exact ih.imp (fun ih => ih.tail h) fun ih => ⟨ih.1, ih.2.tail h⟩
    · rcases ih with ih | ih
      · exact .inr ⟨ih.to_reflTransGen, .refl⟩
      · exact .inr ⟨ih.1, .refl⟩

theorem WellFormed.tie (hF : F.WellFormed) (hn : F.contains n = true) (hp : F.contains p = true)
    (hroot : F.parent n = none) (hpn : ¬ F.Within p n) {i : Nat}
    (hi : i ≤ (F.children p).length) : (F.tie p i n).WellFormed where
  parent_eq_some_iff c q := by
    rw [parent_tie F hn, children_tie F hp]
    have hperm := List.perm_insertIdx n (F.children p) hi
    by_cases hq : q = p
    · subst hq
      rw [if_pos rfl, hperm.mem_iff, List.mem_cons, ← hF.parent_eq_some_iff]
      split
      · next hc => simp [hc]
      · next hc => simp [hc]
    · rw [if_neg hq, ← hF.parent_eq_some_iff]
      split
      · next hc => simp [hc, hroot, Ne.symm hq]
      · rfl
  children_nodup q := by
    rw [children_tie F hp]
    split
    · rw [(List.perm_insertIdx n (F.children p) hi).nodup_iff, List.nodup_cons]
      refine ⟨fun hm => ?_, hF.children_nodup p⟩
      rw [hF.parent_of_mem hm] at hroot
      exact absurd hroot nofun
    · exact hF.children_nodup q
  acyclic a h := by
    rcases transGen_tie hn h with h | ⟨han, hpa⟩
    · exact hF.acyclic a h
    -- a cycle through the new link would have led from `p` to `n` before
    · exact hpn (hpa.trans han)

theorem within_of_within_untie {a b : NodeId} (h : (F.untie n).2.Within a b) : F.Within a b := by
  refine Relation.ReflTransGen.mono (fun a b hab => ?_) _ _ h
  rw [Under, parent_untie] at hab
  split at hab
  · exact absurd hab.symm (Option.some_ne_none _)
  · exact hab

theorem roomBeside_eq (hF : F.WellFormed) (p n : NodeId) :
    F.roomBeside p n = ((F.untie n).2.children p).length := by
  rw [roomBeside, children_untie hF, List.length_erase]
  simp only [hF.parent_eq_some_iff]
  split <;> rfl

theorem attach_eq_ok_iff {i : Option Nat} :
    F.attach p i n = .ok G ↔ F.isAtOrAbove n p = false ∧
      i.getD (F.roomBeside p n) ≤ F.roomBeside p n ∧
      G = (F.untie n).2.tie p (i.getD (F.roomBeside p n)) n := by
  unfold attach
  split
  · next h => simp [h]
  · next h =>
    have ha : F.isAtOrAbove n p = false := by simpa using h
    dsimp only
    split
    · next hlt => simp [ha]; omega
    · next hle => simp [ha, Nat.not_lt.1 hle, eq_comm]

theorem attach_eq_error_iff {i : Option Nat} {e : TreeError} :
    F.attach p i n = .error e ↔
      F.isAtOrAbove n p = true ∧ e = .cycle (F.name p) (F.name n) ∨
      F.isAtOrAbove n p = false ∧ F.roomBeside p n < i.getD (F.roomBeside p n) ∧
        e = .positionOutOfRange (F.name p) (i.getD (F.roomBeside p n)) (F.roomBeside p n) := by
  unfold attach
  split
  · next h => simp [h, eq_comm]
  · next h =>
    have ha : F.isAtOrAbove n p = false := by simpa using h
    dsimp only
    split
    · next hlt => simp [ha, hlt, eq_comm]
    · next hle => simp [ha, hle]

theorem WellFormed.attach (hF : F.WellFormed) (hn : F.contains n = true)
    (hp : F.contains p = true) {i : Option Nat} (h : F.attach p i n = .ok G) : G.WellFormed := by
  obtain ⟨ha, hi, rfl⟩ := attach_eq_ok_iff.1 h
  rw [roomBeside_eq hF] at hi
  refine (hF.untie n).tie (by rwa [contains_untie]) (by rwa [contains_untie]) ?_ ?_ ?_
  · rw [parent_untie, if_pos rfl]
  · intro hw
    have hw := (isAtOrAbove_iff hF).2 (within_of_within_untie hw)
    rw [ha] at hw
    exact absurd hw (by decide)
  · rwa [roomBeside_eq hF]

theorem parent_adopt (F : Forest) (hn : F.contains n = true) (p m : NodeId) :
    (F.adopt p n).parent m = if m = n then some p else F.parent m := by
  rw [adopt, parent_tie _ (by rwa [contains_untie]), parent_untie]
  split <;> rfl

@[simp] theorem contains_adopt (F : Forest) (p n m : NodeId) :
    (F.adopt p n).contains m = F.contains m := by
  rw [adopt, contains_tie, contains_untie]

theorem children_adopt (hF : F.WellFormed) (hp : F.contains p = true) :
    (F.adopt p n).children p = (F.children p).erase n ++ [n] := by
  rw [adopt, children_tie _ (by rwa [contains_untie]), if_pos rfl, List.insertIdx_length_self,
    children_untie hF]

theorem eq_adopt_of_add (hF : F.WellFormed) (h : F.add p n = .ok G) : G = F.adopt p n := by
  obtain ⟨-, -, rfl⟩ := attach_eq_ok_iff.1 h
  rw [Option.getD_none, roomBeside_eq hF]
  rfl

def label (F : Forest) (n : NodeId) : String × Value := (F.name n, F.value n)

theorem name_of_label (h : F.label n = G.label m) : F.name n = G.name m := congrArg Prod.fst h

theorem value_of_label (h : F.label n = G.label m) : F.value n = G.value m := congrArg Prod.snd h

@[simp] theorem label_setParent (F : Forest) (n m : NodeId) (q : Option NodeId) :
    (F.setParent n q).label m = F.label m :=
  field_update (fun node => (node.name, node.value)) F n m fun _ => rfl

@[simp] theorem label_setChildren (F : Forest) (n m : NodeId) (cs : List NodeId) :
    (F.setChildren n cs).label m = F.label m :=
  field_update (fun node => (node.name, node.value)) F n m fun _ => rfl

@[simp] theorem label_untie (F : Forest) (n m : NodeId) : (F.untie n).2.label m = F.label m := by
  unfold untie
  split
  · rfl
  · rw [label_setParent, label_setChildren]

@[simp] theorem label_tie (F : Forest) (p : NodeId) (i : Nat) (n m : NodeId) :
    (F.tie p i n).label m = F.label m := by
  rw [tie, label_setChildren, label_setParent]

@[simp] theorem label_untieChildren (F : Forest) (n m : NodeId) :
    (F.untieChildren n).2.label m = F.label m := by
  rw [untieChildren]
  generalize F.children n = cs
  rw [← label_setChildren F n m []]
  generalize F.setChildren n [] = F
  induction cs generalizing F with
  | nil => rfl
  | cons c cs ih => rw [List.foldl_cons, ih, label_setParent]

@[simp] theorem label_adopt (F : Forest) (p n m : NodeId) : (F.adopt p n).label m = F.label m := by
  rw [adopt, label_tie, label_untie]

/-- A root that can take over some nodes: they are there, and it is none of them. -/
structure CanTakeOver (F : Forest) (p : NodeId) (cs : List NodeId) : Prop where
  contains : F.contains p = true
  root : F.parent p = none
  others : ∀ c ∈ cs, F.contains c = true ∧ c ≠ p

variable {cs : List NodeId}

theorem CanTakeOver.head (h : F.CanTakeOver p (c :: cs)) : F.contains c = true ∧ c ≠ p :=
  h.others c List.mem_cons_self

theorem CanTakeOver.adopt (h : F.CanTakeOver p (c :: cs)) : (F.adopt p c).CanTakeOver p cs where
  contains := by rw [contains_adopt, h.contains]
  root := by rw [parent_adopt F h.head.1, if_neg h.head.2.symm, h.root]
  others d hd := by
    rw [contains_adopt]
    exact h.others d (List.mem_cons_of_mem c hd)

theorem WellFormed.adopt (hF : F.WellFormed) (h : F.CanTakeOver p (c :: cs)) :
    (F.adopt p c).WellFormed := by
  obtain ⟨hc, hne⟩ := h.head
  refine (hF.untie c).tie (by rwa [contains_untie]) ?_ ?_ ?_ le_rfl
  · rw [contains_untie, h.contains]
  · rw [parent_untie, if_pos rfl]
  · intro hw
    rcases Relation.ReflTransGen.cases_head (within_of_within_untie hw) with rfl | ⟨q, hq, -⟩
    · exact hne rfl
    · rw [Under, h.root] at hq
      exact absurd hq.symm (Option.some_ne_none _)

theorem WellFormed.foldl_adopt (hF : F.WellFormed) (h : F.CanTakeOver p cs) :
    (cs.foldl (fun F c => F.adopt p c) F).WellFormed := by
  induction cs generalizing F with
  | nil => exact hF
  | cons c cs ih => exact ih (hF.adopt h) h.adopt

theorem canTakeOver_create (hcs : ∀ c ∈ cs, F.contains c = true) (name : String) (v : Value) :
    (F.create name v).2.CanTakeOver (F.create name v).1 cs where
  contains := (contains_create F name v _).2 (.inl rfl)
  root := by
    rw [parent_create]
    exact parent_of_not_contains (not_contains_create F name v)
  others c hc := by
    refine ⟨(contains_create F name v c).2 (.inr (hcs c hc)), ?_⟩
    rintro rfl
    exact not_contains_create F name v (hcs _ hc)

theorem WellFormed.createWith (hF : F.WellFormed) (name : String) (v : Value)
    (hcs : ∀ c ∈ cs, F.contains c = true) : (F.createWith name v cs).2.WellFormed :=
  (hF.create name v).foldl_adopt (canTakeOver_create hcs name v)

end TreeQuery.Forest
