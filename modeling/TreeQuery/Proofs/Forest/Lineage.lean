import Mathlib.Data.List.Perm.Subperm
import Mathlib.Data.List.Range
import TreeQuery.Proofs.Forest.Links

namespace TreeQuery.Forest

variable {F : Forest} {n m p a : NodeId}

/-- Different known nodes are no more than the forest has. -/
theorem length_le_size {l : List NodeId} (hl : l.Nodup) (hk : ∀ n ∈ l, F.contains n = true) :
    l.length ≤ F.size := by
  have hinj : Function.Injective NodeId.index := by
    rintro ⟨i⟩ ⟨j⟩ rfl
    rfl
  have hsub : l.map NodeId.index ⊆ List.range F.size := by
    intro i hi
    obtain ⟨n, hn, rfl⟩ := List.mem_map.1 hi
    exact List.mem_range.2 (contains_iff.1 (hk n hn))
  have h := (List.subperm_of_subset (hl.map hinj) hsub).length_le
  simpa only [List.length_map, List.length_range] using h

theorem climb_succ_root (h : F.parent n = none) (fuel : Nat) : F.climb (fuel + 1) n = [n] := by
  simp only [climb, h]

theorem climb_succ_parent (h : F.parent n = some p) (fuel : Nat) :
    F.climb (fuel + 1) n = n :: F.climb fuel p := by
  simp only [climb, h]

theorem within_of_mem_climb {fuel : Nat} (h : m ∈ F.climb fuel n) : F.Within n m := by
  induction fuel generalizing n with
  | zero => simp [climb] at h
  | succ fuel ih =>
    cases hp : F.parent n with
    | none =>
      rw [climb_succ_root hp, List.mem_singleton] at h
      exact h ▸ .refl
    | some p =>
      rw [climb_succ_parent hp, List.mem_cons] at h
      rcases h with rfl | h
      · exact .refl
      · exact .head hp (ih h)

theorem nodup_climb (hF : F.WellFormed) (fuel : Nat) (n : NodeId) : (F.climb fuel n).Nodup := by
  induction fuel generalizing n with
  | zero => exact List.nodup_nil
  | succ fuel ih =>
    cases hp : F.parent n with
    | none => rw [climb_succ_root hp]; exact List.nodup_singleton n
    | some p =>
      rw [climb_succ_parent hp, List.nodup_cons]
      refine ⟨fun h => ?_, ih p⟩
      exact hF.acyclic n (.head' hp (within_of_mem_climb h))

theorem contains_of_mem_climb (hF : F.WellFormed) {fuel : Nat} (hn : F.contains n = true)
    (h : m ∈ F.climb fuel n) : F.contains m = true := by
  rcases Relation.ReflTransGen.cases_tail (within_of_mem_climb h) with rfl | ⟨c, -, hc⟩
  · exact hn
  · exact hF.contains_parent hc

theorem length_climb_le (hF : F.WellFormed) (hn : F.contains n = true) (fuel : Nat) :
    (F.climb fuel n).length ≤ F.size :=
  length_le_size (nodup_climb hF fuel n) fun _ h => contains_of_mem_climb hF hn h

/-- A walk that ends before its bound is the same with a greater one. -/
theorem climb_of_length_lt {fuel more : Nat} (h : (F.climb fuel n).length < fuel)
    (hm : fuel ≤ more) : F.climb more n = F.climb fuel n := by
  -- the node and both bounds change together from one step to the next
  induction fuel generalizing n more with
  | zero => omega
  | succ fuel ih =>
    obtain ⟨more, rfl⟩ : ∃ k, more = k + 1 := ⟨more - 1, by omega⟩
    cases hp : F.parent n with
    | none => rw [climb_succ_root hp, climb_succ_root hp]
    | some p =>
      rw [climb_succ_parent hp, List.length_cons] at h
      rw [climb_succ_parent hp, climb_succ_parent hp, ih (by omega) (by omega)]

theorem lineage_of_root (h : F.parent n = none) : F.lineage n = [n] :=
  climb_succ_root h F.size

theorem root_of_root (h : F.parent n = none) : F.root n = n := by
  rw [root, lineage_of_root h]
  rfl

theorem position?_of_root (h : F.parent n = none) : F.position? n = none := by
  rw [position?, h]
  rfl

theorem position?_eq (h : F.parent n = some p) : F.position? n = (F.children p).idxOf? n := by
  rw [position?, h]
  rfl

theorem path_of_root (h : F.parent n = none) : F.path n = .root := by
  simp [path, lineage_of_root h, position?_of_root h, NodePath.root]

section Lineage
variable (hF : F.WellFormed)
include hF

theorem climb_eq_lineage (n : NodeId) {fuel : Nat} (h : F.size < fuel) :
    F.climb fuel n = F.lineage n := by
  by_cases hn : F.contains n = true
  · have := length_climb_le hF hn (F.size + 1)
    exact climb_of_length_lt (by omega) h
  · obtain ⟨k, rfl⟩ : ∃ k, fuel = k + 1 := ⟨fuel - 1, by omega⟩
    have hp := parent_of_not_contains hn
    rw [lineage, climb_succ_root hp, climb_succ_root hp]

theorem lineage_of_parent (h : F.parent n = some p) : F.lineage n = n :: F.lineage p := by
  rw [← climb_eq_lineage hF n (Nat.lt_succ_of_lt (Nat.lt_succ_self _)), climb_succ_parent h]
  rfl

theorem wellFounded_above : WellFounded fun p c => F.Under c p := by
  refine Subrelation.wf (fun {p c} h => ?_) (measure fun n => (F.lineage n).length).wf
  show (F.lineage p).length < (F.lineage c).length
  rw [lineage_of_parent hF h, List.length_cons]
  omega

theorem length_lineage_le (hn : F.contains n = true) : (F.lineage n).length ≤ F.size :=
  length_climb_le hF hn _

theorem mem_lineage : a ∈ F.lineage n ↔ F.Within n a := by
  refine ⟨within_of_mem_climb, fun h => ?_⟩
  induction h using Relation.ReflTransGen.head_induction_on with
  | refl => simp [lineage, climb]
  | head hp _ ih =>
    rw [lineage_of_parent hF hp]
    exact List.mem_cons_of_mem _ ih

theorem isAtOrAbove_iff : F.isAtOrAbove a n = true ↔ F.Within n a := by
  rw [isAtOrAbove, List.contains_iff_mem, mem_lineage hF]

theorem root_of_parent (h : F.parent n = some p) : F.root n = F.root p := by
  have hne : F.lineage p ≠ [] := by
    intro he
    have hm := (mem_lineage hF).2 (Relation.ReflTransGen.refl (a := p))
    simp [he] at hm
  rw [root, root, lineage_of_parent hF h, List.getLastD_cons, List.getLastD_eq_getLast?,
    List.getLastD_eq_getLast?, List.getLast?_eq_getLast_of_ne_nil hne]
  rfl

theorem within_root (n : NodeId) : F.Within n (F.root n) := by
  induction n using (wellFounded_above hF).induction with
  | _ n ih =>
    cases hp : F.parent n with
    | none => rw [root_of_root hp]; exact .refl
    | some p => rw [root_of_parent hF hp]; exact .head hp (ih p hp)

theorem parent_root (n : NodeId) : F.parent (F.root n) = none := by
  induction n using (wellFounded_above hF).induction with
  | _ n ih =>
    cases hp : F.parent n with
    | none => rw [root_of_root hp, hp]
    | some p => rw [root_of_parent hF hp]; exact ih p hp

theorem position?_of_parent (h : F.parent n = some p) :
    ∃ i, F.position? n = some i ∧ (F.children p)[i]? = some n := by
  obtain ⟨i, hi⟩ := Option.isSome_iff_exists.1 (List.isSome_idxOf?.2 (hF.mem_children h))
  obtain ⟨hlt, hget, -⟩ := List.idxOf?_eq_some_iff.1 hi
  refine ⟨i, ?_, ?_⟩
  · rw [position?_eq h, hi]
  · rw [List.getElem?_eq_getElem hlt, hget]

theorem path_of_parent (h : F.parent n = some p) {i : Nat} (hi : F.position? n = some i) :
    (F.path n).indices = (F.path p).indices ++ [i] := by
  simp [path, lineage_of_parent hF h, hi]

end Lineage
end TreeQuery.Forest
