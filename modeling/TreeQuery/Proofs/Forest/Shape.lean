import TreeQuery.Proofs.Forest.Carried

namespace TreeQuery

theorem Value.equals_self {v : Value} (h : ∀ x, v = .float x → x.isNaN = false) :
    v.equals v = true := by
  cases v with
  | float x => simp [equals, Binary64.equals, h x rfl]
  | decimal d => simp [equals, Decimal.equals]
  | _ => simp [equals]

namespace Forest

variable {F G : Forest} {f g : NodeId → NodeId} {r n m p a b x y : NodeId}

/-- There is a way down to each node of a subtree, which is found if enough steps are allowed. -/
theorem isSome_pathFrom? (hF : F.WellFormed) {fuel : Nat} (hm : F.Within m r)
    (hfuel : (F.climb fuel m).length < fuel) : (F.pathFrom? r fuel m).isSome := by
  induction fuel generalizing m with
  | zero => exact absurd hfuel (Nat.not_lt_zero _)
  | succ fuel ih =>
    rw [pathFrom?]
    by_cases hr : m = r
    · rw [if_pos hr]
      rfl
    · obtain ⟨p, hp, hw⟩ := within_parent hm hr
      rw [climb_succ_parent hp, List.length_cons] at hfuel
      obtain ⟨i, hi, -⟩ := position?_of_parent hF hp
      obtain ⟨l, hl⟩ := Option.isSome_iff_exists.1 (ih hw (by omega))
      rw [if_neg hr, hp, hi]
      simp [hl]

theorem pathFrom?_of_root (hx : F.parent x = none) (hne : x ≠ a) (fuel : Nat) :
    F.pathFrom? a fuel x = none := by
  cases fuel with
  | zero => rfl
  | succ fuel => rw [pathFrom?, if_neg hne, hx]; rfl

theorem valuesMatch_node : G.valuesMatch a b (.node x) (.node y) = true ↔
    x = y ∨ ∃ l, G.pathFrom? a (G.size + 1) x = some l ∧ G.pathFrom? b (G.size + 1) y = some l := by
  rw [valuesMatch, Bool.or_eq_true, beq_iff_eq]
  refine or_congr Iff.rfl ?_
  cases G.pathFrom? a (G.size + 1) x with
  | none => exact ⟨nofun, fun ⟨l, hl, _⟩ => absurd hl nofun⟩
  | some l =>
    cases G.pathFrom? b (G.size + 1) y with
    | none => exact ⟨nofun, fun ⟨l, _, hl⟩ => absurd hl nofun⟩
    | some l' => simpa using eq_comm

theorem valuesMatch_self {v : Value} (hv : ∀ n, v ≠ .node n)
    (h : ∀ x, v = .float x → x.isNaN = false) : G.valuesMatch a b v v = true := by
  rw [← Value.equals_self h]
  cases v with
  | node n => exact absurd rfl (hv n)
  | _ => rfl

section Carried
variable (hf : Carries F G f r) (hg : Carries F G g r) (hF : F.WellFormed)
include hf hg hF

theorem valuesMatch_carried (hG : G.WellFormed) (hr : F.contains r = true) (hle : F.size ≤ G.size)
    (hm : F.Within m r) : G.valuesMatch (f r) (g r) (.node (f m)) (.node (g m)) = true := by
  have hlength := length_climb_le hF (contains_of_within hr hm) (G.size + 1)
  obtain ⟨l, hl⟩ := Option.isSome_iff_exists.1
    (isSome_pathFrom? hF hm (Nat.lt_succ_of_le (hlength.trans hle)))
  refine valuesMatch_node.2 (.inr ⟨l, ?_, ?_⟩)
  · rw [hf.pathFrom? hF hG hm, hl]
  · rw [hg.pathFrom? hF hG hm, hl]

/-- Down to any depth, what is carried to two places that have no node in common looks alike there
exactly if the values do. -/
theorem shapesMatch_carried (hne : ∀ m, F.Within m r → f m ≠ g m) {fuel : Nat}
    (hm : F.Within m r) : G.shapesMatch a b fuel (f m) (g m) = true ↔
      ∀ k ∈ F.preorderTo fuel m, G.valuesMatch a b (G.value (f k)) (G.value (g k)) = true := by
  -- on the depth; two nodes that differ look alike by their names, values and children only
  induction fuel generalizing m with
  | zero => exact ⟨fun _ => nofun, fun _ => rfl⟩
  | succ fuel ih =>
    have hchildren : ((F.children m).map f).isEqv ((F.children m).map g)
        (G.shapesMatch a b fuel) = true ↔
        ∀ c ∈ F.children m, G.shapesMatch a b fuel (f c) (g c) = true := by
      generalize F.children m = cs
      induction cs with
      | nil => exact ⟨fun _ => nofun, fun _ => rfl⟩
      | cons c cs ih => rw [List.map_cons, List.map_cons, List.isEqv, Bool.and_eq_true, ih,
          List.forall_mem_cons]
    rw [shapesMatch, Bool.or_eq_true, beq_iff_eq, or_iff_right (hne m hm), hf.name_eq m hm,
      hg.name_eq m hm, hf.children_eq m hm, hg.children_eq m hm, beq_self_eq_true, Bool.true_and,
      Bool.and_eq_true, hchildren, preorderTo_succ, List.forall_mem_cons]
    refine and_congr_right fun _ => ?_
    simp only [List.mem_flatMap, forall_exists_index, and_imp]
    constructor
    · intro h k c hc hk
      exact (ih (within_of_parent (hF.parent_of_mem hc) hm)).1 (h c hc) k hk
    · intro h c hc
      exact (ih (within_of_parent (hF.parent_of_mem hc) hm)).2 fun k hk => h k c hc hk

theorem sameShape_carried (hne : ∀ m, F.Within m r → f m ≠ g m) (hle : F.size ≤ G.size) :
    G.sameShape (f r) (g r) = true ↔ ∀ m, F.Within m r →
      G.valuesMatch (f r) (g r) (G.value (f m)) (G.value (g m)) = true := by
  have hmem (m : NodeId) : m ∈ F.preorderTo (G.size + 1) r ↔ F.Within m r := by
    rw [preorderTo_eq_preorder hF r (by omega), mem_preorder hF]
  rw [sameShape, shapesMatch_carried hf hg hF hne .refl]
  simp only [hmem]

/-- Two places look alike if the values of the subtree have been carried to each along with it, and
references out of it are left as they are. -/
theorem sameShape_of_values (hG : G.WellFormed) (hr : F.contains r = true)
    (hle : F.size ≤ G.size) (hne : ∀ m, F.Within m r → f m ≠ g m)
    (hvalue : ∀ m, F.Within m r → G.value (f m) = (F.value m).mapNode f)
    (hvalue' : ∀ m, F.Within m r → G.value (g m) = (F.value m).mapNode g)
    (hout : ∀ t, ¬ F.Within t r → f t = g t)
    (hnumber : ∀ m, F.Within m r → ∀ x, F.value m = .float x → x.isNaN = false) :
    G.sameShape (f r) (g r) = true := by
  rw [sameShape_carried hf hg hF hne hle]
  intro m hm
  rw [hvalue m hm, hvalue' m hm]
  by_cases hv : ∃ t, F.value m = .node t
  · obtain ⟨t, ht⟩ := hv
    rw [ht]
    by_cases hw : F.Within t r
    · exact valuesMatch_carried hf hg hF hG hr hle hw
    · exact valuesMatch_node.2 (.inl (hout t hw))
  · have hv (t : NodeId) : F.value m ≠ .node t := fun e => hv ⟨t, e⟩
    rw [Value.mapNode_of_ne hv, Value.mapNode_of_ne hv]
    exact valuesMatch_self hv (hnumber m hm)

end Carried
end Forest
end TreeQuery
