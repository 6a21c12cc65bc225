import TreeQuery.Proofs.Forest.Address
import TreeQuery.Proofs.Forest.Reachable
import TreeQuery.Proofs.Forest.Shape

namespace TreeQuery

namespace Value

variable {u v w : Value}

theorem equals_comm (v w : Value) : v.equals w = w.equals v := by
  cases v <;> cases w <;>
    simp only [equals, Binary64.equals, Decimal.equals, eq_comm, Bool.and_comm, Bool.beq_comm]

theorem equals_trans (h : v.equals w = true) (h' : w.equals u = true) : v.equals u = true := by
  cases v <;> cases w <;> simp only [equals, Bool.false_eq_true] at h <;>
    cases u <;> simp only [equals, Bool.false_eq_true] at h' ⊢
  case float.float.float x y z =>
    simp only [Binary64.equals, Bool.and_eq_true, Bool.or_eq_true, decide_eq_true_eq] at h h' ⊢
    obtain ⟨⟨hx, -⟩, rfl | ⟨hzx, hzy⟩⟩ := h
    · exact h'
    · obtain ⟨⟨-, hz⟩, rfl | ⟨-, hzz⟩⟩ := h'
      · exact ⟨⟨hx, hz⟩, .inr ⟨hzx, hzy⟩⟩
      · exact ⟨⟨hx, hz⟩, .inr ⟨hzx, hzz⟩⟩
  case decimal.decimal.decimal x y z =>
    simp only [Decimal.equals, decide_eq_true_eq] at h h' ⊢
    exact h.trans h'
  all_goals simp_all

theorem equals_node_iff {t : NodeId} : v.equals (.node t) = true ↔ v = .node t := by
  cases v <;> simp [equals]

end Value

namespace Forest

variable {F : Forest} {a b c t x y z : NodeId} {u v w : Value} {q : List Nat}

theorem isEqv_iff_getElem? {α : Type} {r : α → α → Bool} {xs ys : List α} :
    xs.isEqv ys r = true ↔ ∀ i : Nat, Option.Rel (fun x y => r x y = true) xs[i]? ys[i]? := by
  induction xs generalizing ys with
  | nil =>
    cases ys with
    | nil => exact ⟨fun _ _ => .none, fun _ => rfl⟩
    | cons y ys => exact ⟨nofun, fun h => nomatch h 0⟩
  | cons x xs ih =>
    cases ys with
    | nil => exact ⟨nofun, fun h => nomatch h 0⟩
    | cons y ys =>
      rw [List.isEqv, Bool.and_eq_true, ih]
      constructor
      · rintro ⟨h, hrest⟩ (_ | i)
        · exact .some h
        · exact hrest i
      · intro h
        have hhead : Option.Rel (fun x y => r x y = true) (some x) (some y) := h 0
        cases hhead with
        | some hxy => exact ⟨hxy, fun i => h (i + 1)⟩

theorem rel_iff {α β : Type} {r : α → β → Prop} {o : Option α} {o' : Option β} :
    Option.Rel r o o' ↔ (o = none ∧ o' = none) ∨ ∃ x y, o = some x ∧ o' = some y ∧ r x y := by
  constructor
  · rintro (h | -)
    · exact .inr ⟨_, _, rfl, rfl, h⟩
    · exact .inl ⟨rfl, rfl⟩
  · rintro (⟨rfl, rfl⟩ | ⟨x, y, rfl, rfl, h⟩)
    · exact .none
    · exact .some h

theorem of_rel {α β : Type} {r : α → β → Prop} {o : Option α} {o' : Option β} {x : α} {y : β}
    (h : Option.Rel r o o') (hx : o = some x) (hy : o' = some y) : r x y := by
  subst hx hy
  cases h with
  | some h => exact h

section WellFormed
variable (hF : F.WellFormed)
include hF

theorem at?_of_pathFrom? {fuel : Nat} (h : F.pathFrom? a fuel x = some q) :
    F.at? a ⟨q⟩ = some x := by
  induction fuel generalizing x q with
  | zero => exact absurd h nofun
  | succ fuel ih =>
    rw [pathFrom?] at h
    split at h
    · next hx =>
      obtain rfl : [] = q := Option.some.inj h
      exact congrArg some hx.symm
    · obtain ⟨p, hp, h⟩ := Option.bind_eq_some_iff.1 h
      obtain ⟨l, hl, h⟩ := Option.bind_eq_some_iff.1 h
      obtain ⟨i, hi, h⟩ := Option.bind_eq_some_iff.1 h
      obtain rfl : l ++ [i] = q := Option.some.inj h
      rw [at?_append, ih hl, Option.bind_some, at?_singleton]
      exact (child?_eq_some_iff hF).2 ⟨hp, hi⟩

theorem pathFrom?_of_at? {fuel : Nat} (h : F.at? a ⟨q⟩ = some x) (hfuel : q.length < fuel) :
    F.pathFrom? a fuel x = some q := by
  induction q using List.reverseRecOn generalizing x fuel with
  | nil =>
    obtain rfl : a = x := Option.some.inj h
    cases fuel with
    | zero => exact absurd hfuel (Nat.not_lt_zero _)
    | succ fuel => rw [pathFrom?, if_pos rfl]
  | append_singleton q i ih =>
    rw [List.length_append, List.length_singleton] at hfuel
    have hne : x ≠ a := by
      rintro rfl
      exact List.append_ne_nil_of_right_ne_nil q (List.cons_ne_nil i []) (at?_address_inj hF h rfl)
    rw [at?_append] at h
    obtain ⟨p, hp, hc⟩ := Option.bind_eq_some_iff.1 h
    rw [at?_singleton] at hc
    obtain ⟨hparent, hi⟩ := (child?_eq_some_iff hF).1 hc
    cases fuel with
    | zero => exact absurd hfuel (Nat.not_lt_zero _)
    | succ fuel =>
      rw [pathFrom?, if_neg hne, hparent, hi]
      simp [ih hp (Nat.lt_of_succ_lt_succ hfuel)]

theorem pathFrom?_eq_some_iff : F.pathFrom? a (F.size + 1) x = some q ↔ F.at? a ⟨q⟩ = some x :=
  ⟨at?_of_pathFrom? hF, fun h =>
    pathFrom?_of_at? hF h (Nat.lt_succ_of_le (length_le_of_at? hF h))⟩

theorem valuesMatch_iff : F.valuesMatch a b v w = true ↔ v.equals w = true ∨
    ∃ x y q, v = .node x ∧ w = .node y ∧ F.at? a ⟨q⟩ = some x ∧ F.at? b ⟨q⟩ = some y := by
  by_cases hnodes : (∃ x, v = .node x) ∧ ∃ y, w = .node y
  · obtain ⟨⟨x, rfl⟩, y, rfl⟩ := hnodes
    rw [valuesMatch_node]
    simp [Value.equals, pathFrom?_eq_some_iff hF]
  · have heq : F.valuesMatch a b v w = v.equals w := by
      cases v <;> cases w <;> first | rfl | exact absurd ⟨⟨_, rfl⟩, _, rfl⟩ hnodes
    rw [heq]
    refine ⟨.inl, fun h => h.resolve_right ?_⟩
    rintro ⟨x, y, q, rfl, rfl, -⟩
    exact hnodes ⟨⟨x, rfl⟩, y, rfl⟩

theorem valuesMatch_symm (h : F.valuesMatch a b v w = true) : F.valuesMatch b a w v = true := by
  rw [valuesMatch_iff hF] at h ⊢
  refine h.imp (fun h => Value.equals_comm v w ▸ h) ?_
  exact fun ⟨x, y, q, hv, hw, hx, hy⟩ => ⟨y, x, q, hw, hv, hy, hx⟩

/-- Of three trees the middle one has no node in common with the outer ones. Then the values of the
outer ones look alike, as each does with the value in the middle, unless that value leads to a node
within the middle tree and only one of the others leads there too. -/
theorem valuesMatch_trans_iff (hab : ∀ t, F.Within t b → ¬ F.Within t a)
    (hbc : ∀ t, F.Within t b → ¬ F.Within t c) (h : F.valuesMatch a b v w = true)
    (h' : F.valuesMatch b c w u = true) : F.valuesMatch a c v u = true ↔
      ∀ t, F.Within t b → w = .node t → (v = .node t ↔ u = .node t) := by
  rw [valuesMatch_iff hF] at h h' ⊢
  constructor
  · rintro (heq | ⟨x, z, q, rfl, rfl, hx, hz⟩) t ht -
    · rw [← Value.equals_node_iff, ← Value.equals_node_iff]
      exact ⟨fun hv => Value.equals_trans (Value.equals_comm v u ▸ heq) hv, Value.equals_trans heq⟩
    · refine ⟨fun e => ?_, fun e => ?_⟩
      · obtain rfl : x = t := Value.node.inj e
        exact absurd (within_of_at? hF hx) (hab x ht)
      · obtain rfl : z = t := Value.node.inj e
        exact absurd (within_of_at? hF hz) (hbc z ht)
  · intro hown
    -- where one side is equal and the other has a place, both meet in a node within `b`
    rcases h with h | ⟨x, t, q, rfl, rfl, hx, ht⟩
    · rcases h' with h' | ⟨t, z, q, rfl, rfl, ht, hz⟩
      · exact .inl (Value.equals_trans h h')
      · have hz := (hown t (within_of_at? hF ht) rfl).1 (Value.equals_node_iff.1 h)
        exact .inl (hz ▸ h)
    · rcases h' with h' | ⟨t', z, q', e, rfl, ht', hz⟩
      · have hu := Value.equals_node_iff.1 (Value.equals_comm (.node t) u ▸ h')
        have hx := (hown t (within_of_at? hF ht) rfl).2 hu
        exact .inl (hx ▸ h')
      · obtain rfl : t = t' := Value.node.inj e
        obtain rfl : q = q' := at?_address_inj hF ht ht'
        exact .inr ⟨x, z, q, rfl, rfl, hx, hz⟩

end WellFormed

def LabelsMatch (F : Forest) (a b x y : NodeId) : Prop :=
  F.name x = F.name y ∧ F.valuesMatch a b (F.value x) (F.value y) = true

theorem shapesMatch_succ_of_ne {fuel : Nat} (hne : x ≠ y) :
    F.shapesMatch a b (fuel + 1) x y = true ↔ F.LabelsMatch a b x y ∧
      ∀ i, Option.Rel (fun c d => F.shapesMatch a b fuel c d = true) (F.child? x i)
        (F.child? y i) := by
  rw [shapesMatch, Bool.or_eq_true, beq_iff_eq, or_iff_right hne, Bool.and_eq_true,
    Bool.and_eq_true, beq_iff_eq, isEqv_iff_getElem?]
  rfl

theorem rel_child?_of_rel_at? {r : NodeId → NodeId → Prop}
    (h : ∀ q, Option.Rel r (F.at? x ⟨q⟩) (F.at? y ⟨q⟩)) (i : Nat) :
    Option.Rel (fun c d => ∀ q, Option.Rel r (F.at? c ⟨q⟩) (F.at? d ⟨q⟩)) (F.child? x i)
      (F.child? y i) := by
  have hbelow (q : List Nat) := h (i :: q)
  simp only [at?_cons] at hbelow
  revert hbelow
  generalize F.child? x i = cx, F.child? y i = cy
  rcases cx with - | c <;> rcases cy with - | d <;> intro hbelow
  · exact .none
  · cases hbelow []
  · cases hbelow []
  · exact .some hbelow

theorem shapesMatch_of_rel (h : ∀ q, Option.Rel (F.LabelsMatch a b) (F.at? x ⟨q⟩) (F.at? y ⟨q⟩))
    (fuel : Nat) : F.shapesMatch a b fuel x y = true := by
  induction fuel generalizing x y with
  | zero => rfl
  | succ fuel ih =>
    by_cases hxy : x = y
    · simp [shapesMatch, hxy]
    refine (shapesMatch_succ_of_ne hxy).2 ⟨?_, fun i => ?_⟩
    · exact of_rel (h []) rfl rfl
    · have hchild := rel_child?_of_rel_at? h i
      revert hchild
      generalize F.child? x i = cx, F.child? y i = cy
      rintro (hbelow | -)
      · exact .some (ih hbelow)
      · exact .none

section WellFormed
variable (hF : F.WellFormed)
include hF

/-- From two different nodes one address never leads to the same one, so it is not by identity that
what is found there looks alike. -/
theorem shapesMatch_succ_of_at? (hne : a ≠ b) {fuel : Nat} (hx : F.at? a ⟨q⟩ = some x)
    (hy : F.at? b ⟨q⟩ = some y) : F.shapesMatch a b (fuel + 1) x y = true ↔
      F.LabelsMatch a b x y ∧ ∀ i, Option.Rel (fun c d => F.shapesMatch a b fuel c d = true)
        (F.child? x i) (F.child? y i) := by
  refine shapesMatch_succ_of_ne ?_
  rintro rfl
  exact hne (at?_inj hF hx hy)

theorem rel_of_shapesMatch (hne : a ≠ b) {fuel : Nat} {l : List Nat} (hx : F.at? a ⟨l⟩ = some x)
    (hy : F.at? b ⟨l⟩ = some y) (h : F.shapesMatch a b fuel x y = true) (hq : q.length < fuel) :
    Option.Rel (F.LabelsMatch a b) (F.at? x ⟨q⟩) (F.at? y ⟨q⟩) := by
  induction q generalizing fuel l x y with
  | nil =>
    obtain ⟨fuel, rfl⟩ := Nat.exists_eq_succ_of_ne_zero (Nat.ne_of_gt hq)
    exact .some ((shapesMatch_succ_of_at? hF hne hx hy).1 h).1
  | cons i q ih =>
    obtain ⟨fuel, rfl⟩ := Nat.exists_eq_succ_of_ne_zero (Nat.ne_of_gt (Nat.zero_lt_of_lt hq))
    rw [at?_cons, at?_cons]
    rcases rel_iff.1 (((shapesMatch_succ_of_at? hF hne hx hy).1 h).2 i) with
      ⟨hcx, hcy⟩ | ⟨c, d, hcx, hcy, hcd⟩
    · rw [hcx, hcy]
      exact .none
    · rw [hcx, hcy]
      refine ih (l := l ++ [i]) ?_ ?_ hcd (Nat.lt_of_succ_lt_succ hq)
      · rw [at?_append, hx, Option.bind_some, at?_singleton, hcx]
      · rw [at?_append, hy, Option.bind_some, at?_singleton, hcy]

/-- Two nodes look alike if they are the same, or if each address leads to nothing from both or to
nodes that carry the same. -/
theorem sameShape_iff : F.sameShape a b = true ↔
    a = b ∨ ∀ q, Option.Rel (F.LabelsMatch a b) (F.at? a ⟨q⟩) (F.at? b ⟨q⟩) := by
  constructor
  · intro h
    refine or_iff_not_imp_left.2 fun hne q => ?_
    by_cases hq : q.length < F.size + 1
    · exact rel_of_shapesMatch hF hne (l := []) rfl rfl h hq
    · -- an address that is longer than the forest leads nowhere
      have hnone (n : NodeId) : F.at? n ⟨q⟩ = none := Option.eq_none_iff_forall_ne_some.2
        fun m hm => hq (Nat.lt_succ_of_le (length_le_of_at? hF hm))
      rw [hnone, hnone]
      exact .none
  · rintro (rfl | h)
    · simp [sameShape, shapesMatch]
    · exact shapesMatch_of_rel h _

theorem sameShape_symm (h : F.sameShape a b = true) : F.sameShape b a = true := by
  rw [sameShape_iff hF] at h ⊢
  refine h.imp Eq.symm fun h q => ?_
  rcases rel_iff.1 (h q) with ⟨ha, hb⟩ | ⟨x, y, ha, hb, hname, hvalue⟩
  · exact rel_iff.2 (.inl ⟨hb, ha⟩)
  · exact rel_iff.2 (.inr ⟨y, x, hb, ha, hname.symm, valuesMatch_symm hF hvalue⟩)

/-- No node is alike to one below it: there would be as many ways down as one likes. -/
theorem not_within_of_sameShape (hne : a ≠ b) (h : F.sameShape a b = true) : ¬ F.Within b a := by
  intro hw
  obtain ⟨q, hq⟩ := exists_at?_of_within hF hw
  have hpos : 0 < q.length := List.length_pos_iff.2 (by
    rintro rfl
    exact hne (Option.some.inj hq))
  have hrel := ((sameShape_iff hF).1 h).resolve_left hne
  have hdown (k : Nat) : ∃ l m, k ≤ l.length ∧ F.at? a ⟨l⟩ = some m := by
    induction k with
    | zero => exact ⟨[], a, Nat.le_refl 0, rfl⟩
    | succ k ih =>
      obtain ⟨l, m, hk, hm⟩ := ih
      rcases rel_iff.1 (hrel l) with ⟨ha, -⟩ | ⟨-, d, -, hd, -⟩
      · exact absurd (hm.symm.trans ha) nofun
      · refine ⟨q ++ l, d, by rw [List.length_append]; omega, ?_⟩
        rw [at?_append, hq, Option.bind_some, hd]
  obtain ⟨l, m, hl, hm⟩ := hdown (F.size + 1)
  exact absurd (length_le_of_at? hF hm) (Nat.not_le_of_lt hl)

/-- Two nodes that look alike, and are not the same, have no node in common. -/
theorem not_within_both (hne : a ≠ b) (h : F.sameShape a b = true) (ht : F.Within t b) :
    ¬ F.Within t a := by
  intro ht'
  rcases within_or_within ht ht' with hw | hw
  · exact not_within_of_sameShape hF hne h hw
  · exact not_within_of_sameShape hF hne.symm (sameShape_symm hF h) hw

theorem sameShape_trans_iff (hneab : a ≠ b) (hnebc : b ≠ c) (hab : F.sameShape a b = true)
    (hbc : F.sameShape b c = true) : F.sameShape a c = true ↔
      ∀ q x y z t, F.at? a q = some x → F.at? b q = some y → F.at? c q = some z → F.Within t b →
        F.value y = .node t → (F.value x = .node t ↔ F.value z = .node t) := by
  have hvalue {x y z : NodeId} := valuesMatch_trans_iff hF (v := F.value x) (w := F.value y)
    (u := F.value z) (fun t => not_within_both hF hneab hab)
    (fun t => not_within_both hF hnebc.symm (sameShape_symm hF hbc))
  have hrel := ((sameShape_iff hF).1 hab).resolve_left hneab
  have hrel' := ((sameShape_iff hF).1 hbc).resolve_left hnebc
  rw [sameShape_iff hF]
  constructor
  · rintro (rfl | hac) ⟨q⟩ x y z t hx hy hz ht hv
    · rw [Option.some.inj (hx.symm.trans hz)]
    · have hxy := of_rel (hrel q) hx hy
      have hyz := of_rel (hrel' q) hy hz
      have hxz := of_rel (hac q) hx hz
      exact (hvalue hxy.2 hyz.2).1 hxz.2 t ht hv
  · intro hown
    refine .inr fun q => ?_
    rcases rel_iff.1 (hrel q) with ⟨hx, hy⟩ | ⟨x, y, hx, hy, hxy⟩
    · rcases rel_iff.1 (hrel' q) with ⟨-, hz⟩ | ⟨y, -, hy', -⟩
      · exact rel_iff.2 (.inl ⟨hx, hz⟩)
      · exact absurd (hy'.symm.trans hy) nofun
    · rcases rel_iff.1 (hrel' q) with ⟨hy', -⟩ | ⟨y', z, hy', hz, hyz⟩
      · exact absurd (hy.symm.trans hy') nofun
      · obtain rfl : y = y' := Option.some.inj (hy.symm.trans hy')
        refine rel_iff.2 (.inr ⟨x, z, hx, hz, hxy.1.trans hyz.1, ?_⟩)
        exact (hvalue hxy.2 hyz.2).2 fun t ht hv => hown ⟨q⟩ x y z t hx hy hz ht hv

end WellFormed

/-- Every node looks like itself, and if it looks like another one, that one looks like it. If `a`
looks like `b` and `b` like `c`, then `a` looks like `c` exactly if `b` is one of the two, or each
reference of `b` to a node of its own tree is also what stands in its place below `a` just when it
is what stands there below `c`. -/
theorem sameShape_refl_symm_trans (h : F.Reachable) (a b c : NodeId) :
    F.sameShape a a = true ∧ (F.sameShape a b = true → F.sameShape b a = true) ∧
    (F.sameShape a b = true → F.sameShape b c = true →
      (F.sameShape a c = true ↔ a = b ∨ b = c ∨
        ∀ (q : NodePath) (x y z t : NodeId), F.at? a q = some x → F.at? b q = some y →
          F.at? c q = some z → F.Within t b → F.value y = .node t →
          (F.value x = .node t ↔ F.value z = .node t))) := by
  have hF := h.wellFormed
  refine ⟨(sameShape_iff hF).2 (.inl rfl), sameShape_symm hF, fun hab hbc => ?_⟩
  by_cases hneab : a = b
  · exact ⟨fun _ => .inl hneab, fun _ => hneab ▸ hbc⟩
  by_cases hnebc : b = c
  · exact ⟨fun _ => .inr (.inl hnebc), fun _ => hnebc ▸ hab⟩
  rw [or_iff_right hneab, or_iff_right hnebc]
  exact sameShape_trans_iff hF hneab hnebc hab hbc

/-- A root that another root and itself refer to, and a third root that refers to itself. -/
theorem sameShape_refl_symm_trans_root :
    let F := [Edit.create "n" .null, .create "n" .null, .create "n" .null,
      .setValue ⟨0⟩ (.node ⟨1⟩), .setValue ⟨1⟩ (.node ⟨1⟩), .setValue ⟨2⟩ (.node ⟨2⟩)].foldl
        Edit.run {}
    F.Reachable ∧ F.sameShape ⟨1⟩ ⟨0⟩ = true ∧ F.sameShape ⟨2⟩ ⟨1⟩ = true ∧
      ¬ F.sameShape ⟨0⟩ ⟨2⟩ = true := by
  intro F
  have hF : F.Reachable := Reachable.empty.foldl (by decide +kernel)
  have hab : F.sameShape ⟨0⟩ ⟨1⟩ = true := by decide +kernel
  have hbc : F.sameShape ⟨1⟩ ⟨2⟩ = true := by decide +kernel
  refine ⟨hF, (sameShape_refl_symm_trans hF ⟨0⟩ ⟨1⟩ ⟨2⟩).2.1 hab,
    (sameShape_refl_symm_trans hF ⟨1⟩ ⟨2⟩ ⟨1⟩).2.1 hbc, fun hac => ?_⟩
  rcases ((sameShape_refl_symm_trans hF ⟨0⟩ ⟨1⟩ ⟨2⟩).2.2 hab hbc).1 hac with h | h | h
  · exact absurd h (by decide)
  · exact absurd h (by decide)
  · have hvalue := (h .root ⟨0⟩ ⟨1⟩ ⟨2⟩ ⟨1⟩ rfl rfl rfl .refl rfl).1 rfl
    exact absurd (Value.node.inj hvalue) (by decide)

/-- The first root refers to the second, the second and the third each to itself. So the first is
like the second by naming one node, the second is like the third by naming its own root, and the
first is not like the third. -/
theorem sameShape_not_transitive :
    let F := [Edit.create "n" .null, .create "n" .null, .create "n" .null,
      .setValue ⟨0⟩ (.node ⟨1⟩), .setValue ⟨1⟩ (.node ⟨1⟩), .setValue ⟨2⟩ (.node ⟨2⟩)].foldl
        Edit.run {}
    F.Reachable ∧ (∀ n x, F.value n = .float x → x.isNaN = false) ∧
      F.contains ⟨0⟩ = true ∧ F.contains ⟨1⟩ = true ∧ F.contains ⟨2⟩ = true ∧
      F.sameShape ⟨0⟩ ⟨1⟩ = true ∧ F.sameShape ⟨1⟩ ⟨2⟩ = true ∧ F.sameShape ⟨0⟩ ⟨2⟩ = false := by
  intro F
  refine ⟨Reachable.empty.foldl (by decide +kernel), ?_, by decide +kernel⟩
  rintro ⟨_ | _ | _ | i⟩ x hx <;> cases hx

end Forest
end TreeQuery
