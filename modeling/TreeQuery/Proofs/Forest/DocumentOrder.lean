import Mathlib.Data.List.Lex
import TreeQuery.Proofs.Forest.Address
import TreeQuery.Proofs.Forest.Mirror
import TreeQuery.Proofs.Forest.Reachable
import TreeQuery.Proofs.Select.Pull

namespace TreeQuery

theorem lt_append_cons (q s : List Nat) (i : Nat) : q < q ++ i :: s := by
  induction q with
  | nil => exact List.nil_lt_cons i s
  | cons a q ih => exact List.cons_lt_cons_iff.2 (.inr ⟨rfl, ih⟩)

theorem lt_of_branch (q s t : List Nat) {i j : Nat} (h : i < j) : q ++ i :: s < q ++ j :: t :=
  List.append_left_lt (List.cons_lt_cons_iff.2 (.inl h))

/-- Nothing stands between a list and the same list with a zero at its end. -/
theorem eq_or_lt_of_lt {q s : List Nat} (h : q < s) : s = q ++ [0] ∨ q ++ [0] < s := by
  induction q generalizing s with
  | nil =>
    obtain _ | ⟨_ | j, s⟩ := s
    · exact absurd h (List.not_lt_nil _)
    · cases s with
      | nil => exact .inl rfl
      | cons k s => exact .inr (lt_append_cons [0] s k)
    · exact .inr (lt_of_branch [] [] s (Nat.succ_pos j))
  | cons a q ih =>
    cases s with
    | nil => exact absurd h (List.not_lt_nil _)
    | cons b s =>
      rcases List.cons_lt_cons_iff.1 h with hab | ⟨rfl, hqs⟩
      · exact .inr (List.cons_lt_cons_iff.2 (.inl hab))
      · refine (ih hqs).imp (fun e => by rw [e]; rfl) fun hlt => ?_
        exact List.cons_lt_cons_iff.2 (.inr ⟨rfl, hlt⟩)

/-- What stands between a list and one whose last position is greater by one goes on as the first
does, up to this position. -/
theorem prefix_of_between {q s t : List Nat} {i : Nat} (hs : q ++ i :: t < s)
    (hs' : s < q ++ [i + 1]) : q ++ [i] <+: s := by
  induction q generalizing s with
  | nil =>
    cases s with
    | nil => exact absurd hs (List.not_lt_nil _)
    | cons j s =>
      have hle : i ≤ j := by
        rcases List.cons_lt_cons_iff.1 hs with h | ⟨h, -⟩ <;> omega
      have hlt : j < i + 1 := by
        rcases List.cons_lt_cons_iff.1 hs' with h | ⟨-, h⟩
        · exact h
        · exact absurd h (List.not_lt_nil _)
      obtain rfl : i = j := by omega
      exact ⟨s, rfl⟩
  | cons a q ih =>
    cases s with
    | nil => exact absurd hs (List.not_lt_nil _)
    | cons b s =>
      rcases List.cons_lt_cons_iff.1 hs with h | ⟨hab, h⟩
      · rcases List.cons_lt_cons_iff.1 hs' with h' | ⟨h', -⟩ <;> omega
      · rcases List.cons_lt_cons_iff.1 hs' with h' | ⟨-, h'⟩
        · omega
        · exact List.cons_prefix_cons.2 ⟨hab, ih h h'⟩

namespace Forest

variable {F : Forest} {n m k p a b l : NodeId} {i j : Nat}

/-- Both are nodes of one tree, and the address of the first is the lesser. -/
def Precedes (F : Forest) (m n : NodeId) : Prop :=
  F.root m = F.root n ∧ (F.path m).indices < (F.path n).indices

theorem Precedes.trans (h : F.Precedes m n) (h' : F.Precedes n k) : F.Precedes m k :=
  ⟨h.1.trans h'.1, lt_trans h.2 h'.2⟩

theorem not_precedes_self (n : NodeId) : ¬ F.Precedes n n := fun h => lt_irrefl _ h.2

theorem Precedes.not_precedes (h : F.Precedes m n) : ¬ F.Precedes n m := fun h' =>
  not_precedes_self m (h.trans h')

/-- The node after `n`: it comes after `n`, and nothing comes between them. -/
def IsNext (F : Forest) (n m : NodeId) : Prop :=
  F.Precedes n m ∧ ∀ k, F.Precedes n k → k = m ∨ F.Precedes m k

def IsPrevious (F : Forest) (n m : NodeId) : Prop :=
  F.Precedes m n ∧ ∀ k, F.Precedes k n → k = m ∨ F.Precedes k m

def IsLast (F : Forest) (a n : NodeId) : Prop :=
  F.Within n a ∧ ∀ k, F.Within k a → k = n ∨ F.Precedes k n

theorem IsNext.unique (h : F.IsNext n m) (h' : F.IsNext n k) : m = k := by
  rcases h.2 k h'.1 with e | hmk
  · exact e.symm
  · exact (h'.2 m h.1).resolve_right hmk.not_precedes

theorem IsPrevious.unique (h : F.IsPrevious n m) (h' : F.IsPrevious n k) : m = k := by
  rcases h.2 k h'.1 with e | hkm
  · exact e.symm
  · exact (h'.2 m h.1).resolve_right hkm.not_precedes

theorem nextSibling?_eq_child? (hp : F.parent n = some p) (hi : F.position? n = some i) :
    F.nextSibling? n = F.child? p (i + 1) := by
  rw [nextSibling?, sibling?_of_parent hp hi (by omega)]
  rfl

section WellFormed
variable (hF : F.WellFormed)
include hF

theorem precedes_trichotomy (hroot : F.root m = F.root n) :
    m = n ∨ F.Precedes m n ∨ F.Precedes n m := by
  rcases lt_trichotomy (F.path m).indices (F.path n).indices with h | h | h
  · exact .inr (.inl ⟨hroot, h⟩)
  · exact .inl (eq_of_path_eq hF hroot h)
  · exact .inr (.inr ⟨hroot.symm, h⟩)

/-- Going forth and going back are one relation. -/
theorem isNext_iff_isPrevious : F.IsNext n m ↔ F.IsPrevious m n := by
  constructor
  · rintro ⟨hnm, hleast⟩
    refine ⟨hnm, fun k hkm => ?_⟩
    rcases precedes_trichotomy hF (hkm.1.trans hnm.1.symm) with e | h | h
    · exact .inl e
    · exact .inr h
    · rcases hleast k h with rfl | hmk
      · exact absurd hkm (not_precedes_self k)
      · exact absurd hkm hmk.not_precedes
  · rintro ⟨hnm, hgreatest⟩
    refine ⟨hnm, fun k hnk => ?_⟩
    rcases precedes_trichotomy hF (hnk.1.symm.trans hnm.1) with e | h | h
    · exact .inl e
    · rcases hgreatest k h with rfl | hkn
      · exact absurd hnk (not_precedes_self k)
      · exact absurd hnk hkn.not_precedes
    · exact .inr h

theorem precedes_of_within (h : F.Within m n) (hne : m ≠ n) : F.Precedes n m := by
  obtain ⟨hroot, q, hq⟩ := (within_iff_path hF).1 h
  refine ⟨hroot.symm, ?_⟩
  cases q with
  | nil => exact absurd (eq_of_path_eq hF hroot (by rw [← hq, List.append_nil])) hne
  | cons i q => rw [← hq]; exact lt_append_cons _ q i

/-- The subtree of a child comes before that of a later one. -/
theorem precedes_of_siblings (ha : F.child? p i = some a) (hb : F.child? p j = some b)
    (hij : i < j) (hm : F.Within m a) (hn : F.Within n b) : F.Precedes m n := by
  obtain ⟨hroot, s, hs⟩ := (within_iff_path hF).1 hm
  obtain ⟨hroot', t, ht⟩ := (within_iff_path hF).1 hn
  have hap := root_of_within hF (within_of_child? hF ha)
  have hbp := root_of_within hF (within_of_child? hF hb)
  refine ⟨by rw [hroot, hroot', hap, hbp], ?_⟩
  rw [← hs, ← ht, path_of_child? hF ha, path_of_child? hF hb, List.append_assoc, List.append_assoc]
  exact lt_of_branch _ s t hij

theorem pairwise_preorderTo (fuel : Nat) (n : NodeId) :
    (F.preorderTo fuel n).Pairwise F.Precedes := by
  induction fuel generalizing n with
  | zero => exact List.Pairwise.nil
  | succ fuel ih =>
    have hchild (i : Nat) (hi : i < (F.children n).length) :
        F.child? n i = some (F.children n)[i] := List.getElem?_eq_getElem hi
    rw [preorderTo_succ, List.pairwise_cons, List.pairwise_flatMap]
    refine ⟨fun m hm => ?_, fun c _ => ih c, ?_⟩
    · obtain ⟨c, hc, hm⟩ := List.mem_flatMap.1 hm
      have hup := hF.parent_of_mem hc
      have hw := within_of_mem_preorderTo hF hm
      refine precedes_of_within hF (hw.tail hup) ?_
      rintro rfl
      exact hF.acyclic m (.tail' hw hup)
    · rw [List.pairwise_iff_getElem]
      intro i j hi hj hij a ha b hb
      exact precedes_of_siblings hF (hchild i hi) (hchild j hj) hij
        (within_of_mem_preorderTo hF ha) (within_of_mem_preorderTo hF hb)

theorem pairwise_descendants (n : NodeId) : (F.descendants n).Pairwise F.Precedes :=
  (pairwise_preorderTo hF _ n).tail

theorem mem_descendants : m ∈ F.descendants n ↔
    F.root m = F.root n ∧ ∃ i q, (F.path m).indices = (F.path n).indices ++ i :: q := by
  have hcons : F.preorder n = n :: F.descendants n := by
    rw [descendants_eq hF, preorder_eq hF]
  have hnot : n ∉ F.descendants n := by
    have hnodup := nodup_preorder hF n
    rw [hcons, List.nodup_cons] at hnodup
    exact hnodup.1
  have hmem : m ∈ F.descendants n ↔ F.Within m n ∧ m ≠ n := by
    rw [← mem_preorder hF, hcons, List.mem_cons]
    constructor
    · intro h
      exact ⟨.inr h, fun e => hnot (e ▸ h)⟩
    · rintro ⟨h, hne⟩
      exact h.resolve_left hne
  rw [hmem, within_iff_path hF]
  constructor
  · rintro ⟨⟨hroot, q, hq⟩, hne⟩
    cases q with
    | nil => exact absurd (eq_of_path_eq hF hroot (by rw [← hq, List.append_nil])) hne
    | cons i q => exact ⟨hroot, i, q, hq.symm⟩
  · rintro ⟨hroot, i, q, hq⟩
    refine ⟨⟨hroot, i :: q, hq.symm⟩, ?_⟩
    rintro rfl
    exact absurd hq (by simp)

theorem isLast_self (h : F.children n = []) : F.IsLast n n := by
  refine ⟨.refl, fun k hk => ?_⟩
  rcases Relation.ReflTransGen.cases_tail hk with e | ⟨c, -, hc⟩
  · exact .inl e.symm
  · have hmem := hF.mem_children hc
    rw [h] at hmem
    exact absurd hmem List.not_mem_nil

theorem isLast_of_last_child (ha : F.child? p i = some a) (hlast : F.child? p (i + 1) = none)
    (h : F.IsLast a n) : F.IsLast p n := by
  have hup := ((child?_eq_some_iff hF).1 ha).1
  refine ⟨h.1.tail hup, fun k hk => ?_⟩
  rcases Relation.ReflTransGen.cases_tail hk with rfl | ⟨c, hkc, hc⟩
  · refine .inr (precedes_of_within hF (h.1.tail hup) ?_)
    rintro rfl
    exact hF.acyclic n (.tail' h.1 hup)
  · obtain ⟨j, -, hget⟩ := position?_of_parent hF hc
    have hj : F.child? p j = some c := hget
    have hlt : j < i + 1 :=
      (List.getElem?_eq_some_iff.1 hj).1.trans_le (List.getElem?_eq_none_iff.1 hlast)
    rcases Nat.lt_or_eq_of_le (Nat.le_of_lt_succ hlt) with hji | rfl
    · exact .inr (precedes_of_siblings hF hj ha hji hkc h.1)
    · obtain rfl : c = a := Option.some.inj (hj.symm.trans ha)
      exact h.2 k hkc

theorem isLast_lastWithin {fuel : Nat} (h : F.size < fuel + (F.lineage n).length) :
    F.IsLast n (F.lastWithin fuel n) := by
  induction fuel generalizing n with
  | zero =>
    refine isLast_self hF (children_of_not_contains fun hn => ?_)
    have := length_lineage_le hF hn
    omega
  | succ fuel ih =>
    rw [lastWithin]
    cases hc : (F.children n).getLast? with
    | none => exact isLast_self hF (List.getLast?_eq_none_iff.1 hc)
    | some c =>
      have hlineage := lineage_of_parent hF (hF.parent_of_mem (List.mem_of_getLast? hc))
      have hpos : 0 < (F.children n).length := List.length_pos_of_mem (List.mem_of_getLast? hc)
      rw [List.getLast?_eq_getElem?] at hc
      refine isLast_of_last_child hF hc (List.getElem?_eq_none_iff.2 (by omega)) (ih ?_)
      rw [hlineage, List.length_cons]
      omega

theorem isNext_first_child (h : F.child? n 0 = some m) : F.IsNext n m := by
  have hpath := path_of_child? hF h
  have hroot := root_of_within hF (within_of_child? hF h)
  refine ⟨⟨hroot.symm, ?_⟩, fun k hk => ?_⟩
  · rw [hpath]
    exact lt_append_cons _ [] 0
  · have hkm : F.root k = F.root m := hk.1.symm.trans hroot.symm
    rcases eq_or_lt_of_lt hk.2 with e | hlt
    · exact .inl (eq_of_path_eq hF hkm (e.trans hpath.symm))
    · exact .inr ⟨hkm.symm, by rw [hpath]; exact hlt⟩

theorem isNext_sibling (ha : F.child? p i = some a) (hb : F.child? p (i + 1) = some b)
    (h : F.IsLast a n) : F.IsNext n b := by
  have hnb := precedes_of_siblings hF ha hb (Nat.lt_succ_self i) h.1 .refl
  refine ⟨hnb, fun k hk => ?_⟩
  rcases precedes_trichotomy hF (hk.1.symm.trans hnb.1) with e | hkb | hbk
  · exact .inl e
  -- between the two there are only nodes at or below `a`, none of which comes after `n`
  · obtain ⟨hna, t, ht⟩ := (within_iff_path hF).1 h.1
    have hlt := hk.2
    rw [← ht, path_of_child? hF ha, List.append_assoc] at hlt
    have hlt' := hkb.2
    rw [path_of_child? hF hb] at hlt'
    have hka : F.Within k a := by
      refine (within_iff_path hF).2 ⟨hk.1.symm.trans hna, ?_⟩
      rw [path_of_child? hF ha]
      exact prefix_of_between hlt hlt'
    rcases h.2 k hka with rfl | hkn
    · exact absurd hk (not_precedes_self k)
    · exact absurd hk hkn.not_precedes
  · exact .inr hbk

theorem previousSibling?_eq_some_iff : F.previousSibling? n = some m ↔
    ∃ p i, F.child? p i = some m ∧ F.child? p (i + 1) = some n := by
  rw [previousSibling?, sibling?_eq_some_iff hF]
  constructor
  · rintro ⟨hroot, q, j, i, hn, hm, hij⟩
    obtain ⟨p, hpn, hpm⟩ := exists_parent_of_paths hF hroot hn hm
    obtain rfl : j = i + 1 := by omega
    exact ⟨p, i, hpm, hpn⟩
  · rintro ⟨p, i, hm, hn⟩
    refine ⟨?_, _, i + 1, i, path_of_child? hF hn, path_of_child? hF hm, by omega⟩
    rw [root_of_within hF (within_of_child? hF hm), root_of_within hF (within_of_child? hF hn)]

/-- Climbing from a node below which `n` is the last comes to the node after `n`, or shows that `n`
is the last of its tree. -/
theorem climb_spec (h : F.IsLast a n) :
    match (F.lineage a).findSome? F.nextSibling? with
    | some m => F.IsNext n m
    | none => ∀ k, ¬ F.Precedes n k := by
  -- without a later sibling the node is the last one below the parent too
  induction a using (wellFounded_above hF).induction with
  | _ a ih =>
    cases hp : F.parent a with
    | none =>
      have hsibling : F.nextSibling? a = none := by
        rw [nextSibling?, sibling?, position?_of_root hp]
        rfl
      rw [lineage_of_root hp, List.findSome?_cons, hsibling, List.findSome?_nil]
      intro k hk
      have hka : F.Within k a := by
        rw [← root_of_root hp, ← root_of_within hF h.1, hk.1]
        exact within_root hF k
      rcases h.2 k hka with rfl | hkn
      · exact not_precedes_self k hk
      · exact hk.not_precedes hkn
    | some p =>
      obtain ⟨i, hi, hget⟩ := position?_of_parent hF hp
      rw [lineage_of_parent hF hp, List.findSome?_cons, nextSibling?_eq_child? hp hi]
      cases hb : F.child? p (i + 1) with
      | some b => exact isNext_sibling hF hget hb h
      | none => exact ih p hp (isLast_of_last_child hF hget hb h)

theorem next?_spec (n : NodeId) :
    match F.next? n with
    | some m => F.IsNext n m
    | none => ∀ k, ¬ F.Precedes n k := by
  rw [next?]
  cases hc : F.children n with
  | nil => exact climb_spec hF (isLast_self hF hc)
  | cons c cs =>
    refine isNext_first_child hF ?_
    rw [child?, hc]
    rfl

theorem next?_eq_some_iff : F.next? n = some m ↔ F.IsNext n m := by
  have hspec := next?_spec hF n
  constructor
  · intro h
    rw [h] at hspec
    exact hspec
  · intro h
    cases hn : F.next? n with
    | none =>
      rw [hn] at hspec
      exact absurd h.1 (hspec m)
    | some k =>
      rw [hn] at hspec
      rw [h.unique hspec]

theorem next?_eq_none_iff : F.next? n = none ↔ ∀ k, ¬ F.Precedes n k := by
  have hspec := next?_spec hF n
  constructor
  · intro h
    rw [h] at hspec
    exact hspec
  · intro h
    cases hn : F.next? n with
    | none => rfl
    | some m =>
      rw [hn] at hspec
      exact absurd hspec.1 (h m)

theorem isPrevious_of_previous? (h : F.previous? n = some m) : F.IsPrevious n m := by
  rw [← isNext_iff_isPrevious hF]
  rw [previous?] at h
  cases hs : F.previousSibling? n with
  | some s =>
    rw [hs] at h
    obtain ⟨p, i, hi, hn⟩ := (previousSibling?_eq_some_iff hF).1 hs
    have hlast : F.IsLast s (F.lastWithin F.size s) :=
      isLast_lastWithin hF (Nat.lt_add_of_pos_right (Nat.succ_pos _))
    rw [Option.some.inj h] at hlast
    exact isNext_sibling hF hi hn hlast
  | none =>
    rw [hs] at h
    obtain ⟨i, -, hi⟩ := position?_of_parent hF h
    cases i with
    | zero => exact isNext_first_child hF hi
    | succ i =>
      -- the child before it would be its previous sibling
      have hlt := (List.getElem?_eq_some_iff.1 hi).1
      have hbefore : F.child? m i = some (F.children m)[i] := List.getElem?_eq_getElem (by omega)
      have hs' := (previousSibling?_eq_some_iff hF).2 ⟨m, i, hbefore, hi⟩
      rw [hs] at hs'
      exact absurd hs'.symm (Option.some_ne_none _)

theorem previous?_eq_none_iff : F.previous? n = none ↔ F.parent n = none := by
  rw [previous?]
  cases hs : F.previousSibling? n with
  | none => rfl
  | some s =>
    obtain ⟨p, i, -, hn⟩ := (previousSibling?_eq_some_iff hF).1 hs
    have hp := ((child?_eq_some_iff hF).1 hn).1
    constructor
    · intro h
      exact absurd h (Option.some_ne_none _)
    · intro h
      rw [hp] at h
      exact absurd h (Option.some_ne_none _)

theorem previous?_eq_some_iff : F.previous? n = some m ↔ F.IsPrevious n m := by
  refine ⟨isPrevious_of_previous? hF, fun h => ?_⟩
  cases hn : F.previous? n with
  | some k => rw [h.unique (isPrevious_of_previous? hF hn)]
  | none =>
    have hroot := path_of_root ((previous?_eq_none_iff hF).1 hn)
    have hlt := h.1.2
    rw [hroot] at hlt
    exact absurd hlt (List.not_lt_nil _)

end WellFormed

theorem beneath_gives (hF : F.WellFormed) (n : NodeId) :
    (Cursor.beneath F n).Gives F (F.descendants n) := by
  rw [Cursor.gives_iff hF, descendants_eq hF]
  exact List.append_nil _

/-- In every tree that has come about by edits, addresses and nodes correspond one to one. The nodes
below a node, drained from it, are those whose address strictly goes on from its own, each once and
in the order of their addresses. The next and the previous node are the neighbours in this order
among all nodes of the tree, and there is none only for the last node and for the root. A sibling has
the address with another last position. -/
theorem addresses_give_document_order (h : F.Reachable) (n : NodeId) :
    (F.at? (F.root n) (F.path n) = some n ∧
      ∀ q m, F.at? (F.root n) q = some m → F.path m = q) ∧
    ((Cursor.beneath F n).Gives F (F.descendants n) ∧ (F.descendants n).Nodup ∧
      (F.descendants n).Pairwise F.Precedes ∧
      ∀ m, m ∈ F.descendants n ↔
        F.root m = F.root n ∧ ∃ i q, (F.path m).indices = (F.path n).indices ++ i :: q) ∧
    ((∀ m, F.next? n = some m ↔ F.IsNext n m) ∧
      (F.next? n = none ↔ ∀ k, F.root k = F.root n → k = n ∨ F.Precedes k n)) ∧
    ((∀ m, F.previous? n = some m ↔ F.IsPrevious n m) ∧
      (F.previous? n = none ↔ F.root n = n)) ∧
    (∀ m, F.next? n = some m ↔ F.previous? m = some n) ∧
    ∀ (k : Int) m, F.sibling? n k = some m ↔ F.root m = F.root n ∧ ∃ (q : List Nat) (i j : Nat),
      (F.path n).indices = q ++ [i] ∧ (F.path m).indices = q ++ [j] ∧ (j : Int) = i + k := by
  have hF := h.wellFormed
  refine ⟨⟨at?_root_path hF n, fun q m hm => path_of_at?_root hF (parent_root hF n) hm⟩,
    ⟨beneath_gives hF n, ?_, pairwise_descendants hF n, fun m => mem_descendants hF⟩,
    ⟨fun m => next?_eq_some_iff hF, ?_⟩, ⟨fun m => previous?_eq_some_iff hF, ?_⟩, fun m => ?_,
    fun k m => sibling?_eq_some_iff hF⟩
  · refine (pairwise_descendants hF n).imp fun {a b} hab => ?_
    rintro rfl
    exact not_precedes_self a hab
  · rw [next?_eq_none_iff hF]
    constructor
    · intro hlast k hk
      exact (precedes_trichotomy hF hk).imp_right fun hor => hor.resolve_right (hlast k)
    · intro hlast k hk
      rcases hlast k hk.1.symm with rfl | hkn
      · exact not_precedes_self k hk
      · exact hk.not_precedes hkn
  · rw [previous?_eq_none_iff hF]
    constructor
    · intro hp
      exact root_of_root hp
    · intro hroot
      rw [← hroot]
      exact parent_root hF n
  · rw [next?_eq_some_iff hF, previous?_eq_some_iff hF]
    exact isNext_iff_isPrevious hF

/-- Two children, of which the first has two children itself. -/
theorem addresses_give_document_order_nested :
    let F := [Edit.create "root" .null, .create "a" .null, .create "b" .null, .create "a0" .null,
      .create "a1" .null, .add ⟨0⟩ ⟨1⟩, .add ⟨0⟩ ⟨2⟩, .add ⟨1⟩ ⟨3⟩, .add ⟨1⟩ ⟨4⟩].foldl Edit.run {}
    F.Reachable ∧ F.path ⟨4⟩ = ⟨[0, 1]⟩ ∧ (Cursor.beneath F ⟨0⟩).Gives F [⟨1⟩, ⟨3⟩, ⟨4⟩, ⟨2⟩] ∧
      F.IsNext ⟨4⟩ ⟨2⟩ ∧ F.IsPrevious ⟨2⟩ ⟨4⟩ ∧ F.next? ⟨2⟩ = none := by
  intro F
  have hF : F.Reachable := Reachable.empty.foldl (by decide +kernel)
  obtain ⟨-, ⟨hgives, -⟩, -⟩ := addresses_give_document_order hF ⟨0⟩
  obtain ⟨⟨-, haddress⟩, -, ⟨hnext, -⟩, -⟩ := addresses_give_document_order hF ⟨4⟩
  obtain ⟨-, -, -, ⟨hprevious, -⟩, -⟩ := addresses_give_document_order hF ⟨2⟩
  exact ⟨hF, haddress ⟨[0, 1]⟩ ⟨4⟩ (by decide +kernel), hgives, (hnext ⟨2⟩).1 (by decide +kernel),
    (hprevious ⟨4⟩).1 (by decide +kernel), by decide +kernel⟩

end Forest
end TreeQuery
