import TreeQuery.Proofs.Forest.Preorder

namespace TreeQuery.Forest

variable {F : Forest} {n m p r c a b x : NodeId} {q : List Nat} {i j : Nat}

theorem at?_append (F : Forest) (n : NodeId) (q q' : List Nat) :
    F.at? n ⟨q ++ q'⟩ = (F.at? n ⟨q⟩).bind fun m => F.at? m ⟨q'⟩ := by
  unfold at?
  rw [List.foldlM_append]
  rfl

theorem at?_singleton (F : Forest) (n : NodeId) (i : Nat) : F.at? n ⟨[i]⟩ = F.child? n i := by
  unfold at?
  rw [List.foldlM_cons]
  cases F.child? n i <;> rfl

theorem at?_cons (F : Forest) (n : NodeId) (i : Nat) (q : List Nat) :
    F.at? n ⟨i :: q⟩ = (F.child? n i).bind fun m => F.at? m ⟨q⟩ := rfl

theorem root_of_within (hF : F.WellFormed) (h : F.Within m n) : F.root m = F.root n := by
  induction h using Relation.ReflTransGen.head_induction_on with
  | refl => rfl
  | head hp _ ih => rw [root_of_parent hF hp, ih]

theorem sibling?_of_parent {k : Int} (hp : F.parent n = some p) (hi : F.position? n = some i)
    (hk : 0 ≤ i + k) : F.sibling? n k = F.child? p (i + k).toNat := by
  rw [sibling?, hi, hp]
  exact if_pos hk

section WellFormed
variable (hF : F.WellFormed)
include hF

/-- The child at a position is the one that has this parent and this position. -/
theorem child?_eq_some_iff :
    F.child? p i = some c ↔ F.parent c = some p ∧ F.position? c = some i := by
  constructor
  · intro h
    have hp := hF.parent_of_mem (List.mem_of_getElem? h)
    obtain ⟨j, hj, hget⟩ := position?_of_parent hF hp
    obtain ⟨hi, hci⟩ := List.getElem?_eq_some_iff.1 h
    obtain ⟨hj', hcj⟩ := List.getElem?_eq_some_iff.1 hget
    have hij : j = i := (hF.children_nodup p).getElem_inj_iff.1 (hcj.trans hci.symm)
    exact ⟨hp, by rw [hj, hij]⟩
  · rintro ⟨hp, hi⟩
    obtain ⟨j, hj, hget⟩ := position?_of_parent hF hp
    rw [hi, Option.some.injEq] at hj
    rw [hj]
    exact hget

theorem path_of_child? (h : F.child? p i = some c) :
    (F.path c).indices = (F.path p).indices ++ [i] := by
  obtain ⟨hp, hi⟩ := (child?_eq_some_iff hF).1 h
  exact path_of_parent hF hp hi

theorem within_of_child? (h : F.child? p i = some c) : F.Within c p :=
  .single ((child?_eq_some_iff hF).1 h).1

/-- The address below a node goes on from the address of the node itself. -/
theorem path_of_at? {q : NodePath} (h : F.at? n q = some m) :
    (F.path m).indices = (F.path n).indices ++ q.indices := by
  obtain ⟨q⟩ := q
  induction q using List.reverseRecOn generalizing m with
  | nil =>
    obtain rfl : n = m := Option.some.inj h
    exact (List.append_nil _).symm
  | append_singleton q i ih =>
    rw [at?_append] at h
    obtain ⟨p, hp, hc⟩ := Option.bind_eq_some_iff.1 h
    rw [at?_singleton] at hc
    have hq := ih hp
    rw [path_of_child? hF hc, hq]
    exact List.append_assoc _ _ _

theorem within_of_at? {q : NodePath} (h : F.at? n q = some m) : F.Within m n := by
  obtain ⟨q⟩ := q
  induction q using List.reverseRecOn generalizing m with
  | nil => exact Option.some.inj h ▸ .refl
  | append_singleton q i ih =>
    rw [at?_append] at h
    obtain ⟨p, hp, hc⟩ := Option.bind_eq_some_iff.1 h
    rw [at?_singleton] at hc
    exact (within_of_child? hF hc).trans (ih hp)

theorem exists_at?_of_within (h : F.Within m n) : ∃ q, F.at? n ⟨q⟩ = some m := by
  induction h using Relation.ReflTransGen.head_induction_on with
  | refl => exact ⟨[], rfl⟩
  | @head c p hp _ ih =>
    obtain ⟨q, hq⟩ := ih
    obtain ⟨i, hi, hget⟩ := position?_of_parent hF hp
    refine ⟨q ++ [i], ?_⟩
    rw [at?_append, hq, Option.bind_some, at?_singleton]
    exact hget

/-- Of a tree with the root `r`, a node is the one at its own address. -/
theorem at?_path (hroot : F.parent r = none) (hn : F.Within n r) : F.at? r (F.path n) = some n := by
  obtain ⟨q, hq⟩ := exists_at?_of_within hF hn
  have hpath := path_of_at? hF hq
  rw [path_of_root hroot] at hpath
  have hpath : F.path n = ⟨q⟩ := congrArg NodePath.mk hpath
  rw [hpath, hq]

theorem at?_root_path (n : NodeId) : F.at? (F.root n) (F.path n) = some n :=
  at?_path hF (parent_root hF n) (within_root hF n)

theorem path_of_at?_root {q : NodePath} (hroot : F.parent r = none) (h : F.at? r q = some m) :
    F.path m = q := by
  have hpath := path_of_at? hF h
  rw [path_of_root hroot] at hpath
  exact congrArg NodePath.mk hpath

theorem eq_of_path_eq (hroot : F.root m = F.root n)
    (h : (F.path m).indices = (F.path n).indices) : m = n := by
  have hm := at?_root_path hF m
  have hpath : F.path m = F.path n := congrArg NodePath.mk h
  rw [hroot, hpath, at?_root_path hF n] at hm
  exact (Option.some.inj hm).symm

theorem at?_inj (ha : F.at? a ⟨q⟩ = some x) (hb : F.at? b ⟨q⟩ = some x) : a = b := by
  refine eq_of_path_eq hF ?_ ?_
  · rw [← root_of_within hF (within_of_at? hF ha), root_of_within hF (within_of_at? hF hb)]
  · have hpath := (path_of_at? hF ha).symm.trans (path_of_at? hF hb)
    exact List.append_cancel_right hpath

theorem at?_address_inj {q' : List Nat} (h : F.at? n ⟨q⟩ = some m) (h' : F.at? n ⟨q'⟩ = some m) :
    q = q' :=
  List.append_cancel_left ((path_of_at? hF h).symm.trans (path_of_at? hF h'))

theorem length_le_of_at? (h : F.at? n ⟨q⟩ = some m) : q.length ≤ F.size := by
  have hpath : (F.path m).indices.length = (F.path n).indices.length + q.length := by
    rw [path_of_at? hF h, List.length_append]
  have hle : (F.path m).indices.length ≤ F.size := by
    by_cases hm : F.contains m = true
    · rw [path, List.length_reverse]
      exact (List.length_filterMap_le _ _).trans (length_lineage_le hF hm)
    · rw [path_of_root (parent_of_not_contains hm)]
      exact Nat.zero_le _
  omega

theorem within_iff_path : F.Within m n ↔
    F.root m = F.root n ∧ (F.path n).indices <+: (F.path m).indices := by
  constructor
  · intro h
    obtain ⟨q, hq⟩ := exists_at?_of_within hF h
    exact ⟨root_of_within hF h, q, (path_of_at? hF hq).symm⟩
  · rintro ⟨hroot, q, hq⟩
    have hm := at?_root_path hF m
    have hpath : F.path m = ⟨(F.path n).indices ++ q⟩ := congrArg NodePath.mk hq.symm
    rw [hpath, at?_append, hroot] at hm
    have hn : F.at? (F.root n) ⟨(F.path n).indices⟩ = some n := at?_root_path hF n
    rw [hn] at hm
    exact within_of_at? hF hm

theorem exists_parent_of_path {q : List Nat} (h : (F.path n).indices = q ++ [i]) :
    ∃ p, F.child? p i = some n ∧ (F.path p).indices = q := by
  cases hp : F.parent n with
  | none =>
    rw [path_of_root hp] at h
    exact absurd h.symm (by simp [NodePath.root])
  | some p =>
    obtain ⟨j, hj, hget⟩ := position?_of_parent hF hp
    rw [path_of_parent hF hp hj] at h
    obtain ⟨hq, hij⟩ := List.append_inj' h rfl
    rw [List.singleton_inj] at hij
    exact ⟨p, hij ▸ hget, hq⟩

theorem exists_parent_of_paths {q : List Nat} (hroot : F.root m = F.root n)
    (hn : (F.path n).indices = q ++ [i]) (hm : (F.path m).indices = q ++ [j]) :
    ∃ p, F.child? p i = some n ∧ F.child? p j = some m := by
  obtain ⟨p, hpn, hq⟩ := exists_parent_of_path hF hn
  obtain ⟨p', hpm, hq'⟩ := exists_parent_of_path hF hm
  rw [root_of_within hF (within_of_child? hF hpm), root_of_within hF (within_of_child? hF hpn)]
    at hroot
  obtain rfl : p' = p := eq_of_path_eq hF hroot (hq'.trans hq.symm)
  exact ⟨p', hpn, hpm⟩

/-- The sibling so many places on has the address with the last position so much greater. -/
theorem sibling?_eq_some_iff {k : Int} : F.sibling? n k = some m ↔
    F.root m = F.root n ∧ ∃ (q : List Nat) (i j : Nat), (F.path n).indices = q ++ [i] ∧
      (F.path m).indices = q ++ [j] ∧ (j : Int) = i + k := by
  constructor
  · intro h
    obtain ⟨i, hi, h⟩ := Option.bind_eq_some_iff.1 h
    dsimp only at h
    split at h
    · next hk =>
      obtain ⟨p, hp, hm⟩ := Option.bind_eq_some_iff.1 h
      have hpm := ((child?_eq_some_iff hF).1 hm).1
      refine ⟨?_, (F.path p).indices, i, (i + k).toNat, path_of_parent hF hp hi,
        path_of_child? hF hm, Int.toNat_of_nonneg hk⟩
      rw [root_of_parent hF hpm, root_of_parent hF hp]
    · exact absurd h nofun
  · rintro ⟨hroot, q, i, j, hn, hm, hj⟩
    obtain ⟨p, hpn, hpm⟩ := exists_parent_of_paths hF hroot hn hm
    obtain ⟨hp, hi⟩ := (child?_eq_some_iff hF).1 hpn
    have hnat : ((i : Int) + k).toNat = j := by omega
    rw [sibling?_of_parent hp hi (by omega), hnat, hpm]

end WellFormed
end TreeQuery.Forest
