import Mathlib.Algebra.Ring.Int.Defs
import Mathlib.Data.List.Pairwise
import Mathlib.Data.String.Basic
import TreeQuery.Json.Basic

namespace TreeQuery.Json

mutual
/-- Whether two documents are the same. -/
def same : Json → Json → Bool
  | .null, .null => true
  | .boolean a, .boolean b => decide (a = b)
  | .integer m, .integer n => decide (m = n)
  | .float x, .float y => decide (x = y)
  | .string s, .string t => decide (s = t)
  | .array as, .array bs => sameItems as bs
  | .object as, .object bs => sameMembers as bs
  | _, _ => false

def sameItems : List Json → List Json → Bool
  | [], [] => true
  | a :: as, b :: bs => same a b && sameItems as bs
  | _, _ => false

def sameMembers : List (String × Json) → List (String × Json) → Bool
  | [], [] => true
  | (key, a) :: as, (key', b) :: bs => decide (key = key') && same a b && sameMembers as bs
  | _, _ => false
end

mutual
theorem same_iff (a b : Json) : same a b = true ↔ a = b := by
  cases a with
  | array as =>
    cases b with
    | array bs => rw [same, sameItems_iff as bs, array.injEq]
    | _ => simp [same]
  | object as =>
    cases b with
    | object bs => rw [same, sameMembers_iff as bs, object.injEq]
    | _ => simp [same]
  | _ => cases b <;> simp [same]

theorem sameItems_iff (as bs : List Json) : sameItems as bs = true ↔ as = bs := by
  cases as with
  | nil => cases bs <;> simp [sameItems]
  | cons a as =>
    cases bs with
    | nil => simp [sameItems]
    | cons b bs =>
      rw [sameItems, Bool.and_eq_true, same_iff a b, sameItems_iff as bs, List.cons.injEq]

theorem sameMembers_iff (as bs : List (String × Json)) : sameMembers as bs = true ↔ as = bs := by
  cases as with
  | nil => cases bs <;> simp [sameMembers]
  | cons a as =>
    cases bs with
    | nil => simp [sameMembers]
    | cons b bs =>
      obtain ⟨key, a⟩ := a
      obtain ⟨key', b⟩ := b
      rw [sameMembers, Bool.and_eq_true, Bool.and_eq_true, decide_eq_true_eq, same_iff a b,
        sameMembers_iff as bs, List.cons.injEq, Prod.mk.injEq]
end

instance : DecidableEq Json := fun a b => decidable_of_iff _ (same_iff a b)

mutual
/-- The members and elements at every depth, in document order. -/
def contents : Json → List Json
  | .array items => itemContents items
  | .object members => memberContents members
  | _ => []

def itemContents : List Json → List Json
  | [] => []
  | item :: rest => item :: (item.contents ++ itemContents rest)

def memberContents : List (String × Json) → List Json
  | [] => []
  | (_, value) :: rest => value :: (value.contents ++ memberContents rest)
end

theorem itemContents_eq (items : List Json) :
    itemContents items = items.flatMap fun item => item :: item.contents := by
  induction items with
  | nil => rfl
  | cons item rest ih => rw [itemContents, List.flatMap_cons, ih, List.cons_append]

theorem memberContents_eq (members : List (String × Json)) :
    memberContents members = itemContents (members.map Prod.snd) := by
  induction members with
  | nil => rfl
  | cons m rest ih => rw [memberContents, List.map_cons, itemContents, ih]

theorem mem_itemContents {items : List Json} {j : Json} :
    j ∈ itemContents items ↔ ∃ item ∈ items, j = item ∨ j ∈ item.contents := by
  simp only [itemContents_eq, List.mem_flatMap, List.mem_cons]

/-- The keys of an object from the least to the greatest, each of them once. -/
def Ordered (members : List (String × Json)) : Prop := (members.map Prod.fst).Pairwise (· < ·)

theorem ordered_cons {m : String × Json} {members : List (String × Json)} :
    Ordered (m :: members) ↔ (∀ other ∈ members, m.1 < other.1) ∧ Ordered members := by
  rw [Ordered, List.map_cons, List.pairwise_cons, List.forall_mem_map]
  rfl

theorem mem_insertMember {key : String} {value : Json} {members : List (String × Json)}
    {m : String × Json} (h : m ∈ insertMember key value members) :
    m = (key, value) ∨ m ∈ members := by
  induction members with
  | nil => exact .inl (List.mem_singleton.1 h)
  | cons other rest ih =>
    rw [insertMember] at h
    split_ifs at h
    · exact (List.mem_cons.1 h).imp_right (List.mem_cons_of_mem _)
    · exact List.mem_cons.1 h
    · rcases List.mem_cons.1 h with h | h
      · exact .inr (h ▸ List.mem_cons_self)
      · exact (ih h).imp_right (List.mem_cons_of_mem _)

theorem ordered_insertMember {key : String} (value : Json) {members : List (String × Json)}
    (h : Ordered members) : Ordered (insertMember key value members) := by
  induction members with
  | nil => exact List.pairwise_singleton _ _
  | cons other rest ih =>
    obtain ⟨hfirst, hrest⟩ := ordered_cons.1 h
    rw [insertMember]
    split_ifs with heq hlt
    · exact ordered_cons.2 ⟨fun m hm => heq ▸ hfirst m hm, hrest⟩
    · refine ordered_cons.2 ⟨fun m hm => ?_, h⟩
      rcases List.mem_cons.1 hm with rfl | hm
      · exact hlt
      · exact hlt.trans (hfirst m hm)
    · have hgt : other.1 < key := lt_of_le_of_ne (not_lt.1 hlt) (Ne.symm heq)
      refine ordered_cons.2 ⟨fun m hm => ?_, ih hrest⟩
      rcases mem_insertMember hm with rfl | hm
      · exact hgt
      · exact hfirst m hm

theorem exists_ofMembers (members : List (String × Json)) :
    ∃ sorted, ofMembers members = .object sorted ∧ Ordered sorted ∧ ∀ m ∈ sorted, m ∈ members := by
  suffices h : ∀ sorted : List (String × Json), Ordered sorted →
      Ordered (members.foldl (fun sorted m => insertMember m.1 m.2 sorted) sorted) ∧
        ∀ m ∈ members.foldl (fun sorted m => insertMember m.1 m.2 sorted) sorted,
          m ∈ sorted ∨ m ∈ members by
    obtain ⟨hordered, hmem⟩ := h [] List.Pairwise.nil
    refine ⟨_, rfl, hordered, fun m hm => ?_⟩
    exact (hmem m hm).resolve_left List.not_mem_nil
  induction members with
  | nil => exact fun sorted h => ⟨h, fun m hm => .inl hm⟩
  | cons first rest ih =>
    intro sorted h
    obtain ⟨hordered, hmem⟩ := ih _ (ordered_insertMember first.2 h)
    refine ⟨hordered, fun m hm => ?_⟩
    rcases hmem m hm with hm | hm
    · rcases mem_insertMember hm with rfl | hm
      · exact .inr List.mem_cons_self
      · exact .inl hm
    · exact .inr (List.mem_cons_of_mem first hm)

/-- A document that a reader can give. -/
inductive Stored : Json → Prop
  | null : Stored .null
  | boolean (b : Bool) : Stored (.boolean b)
  | integer (n : Int) (low : -2 ^ 63 ≤ n) (high : n < 2 ^ 64) : Stored (.integer n)
  | float (x : Binary64) (finite : x.isFinite = true) : Stored (.float x)
  | string (s : String) : Stored (.string s)
  | array (items : List Json) (stored : ∀ item ∈ items, Stored item) : Stored (.array items)
  | object (members : List (String × Json)) (ordered : Ordered members)
      (stored : ∀ m ∈ members, Stored m.2) : Stored (.object members)

theorem stored_ofMembers {members : List (String × Json)} (h : ∀ m ∈ members, Stored m.2) :
    Stored (ofMembers members) := by
  obtain ⟨sorted, heq, hordered, hmem⟩ := exists_ofMembers members
  rw [heq]
  exact .object sorted hordered fun m hm => h m (hmem m hm)

theorem Stored.of_itemContents {items : List Json}
    (h : ∀ item ∈ items, Stored item ∧ ∀ j ∈ item.contents, Stored j) {j : Json}
    (hj : j ∈ itemContents items) : Stored j := by
  obtain ⟨item, hitem, rfl | hj⟩ := mem_itemContents.1 hj
  · exact (h j hitem).1
  · exact (h item hitem).2 j hj

theorem Stored.of_contents {document : Json} (h : Stored document) :
    ∀ j ∈ document.contents, Stored j := by
  induction h with
  | array items stored ih =>
    intro j hj
    rw [contents] at hj
    exact Stored.of_itemContents (fun item hitem => ⟨stored item hitem, ih item hitem⟩) hj
  | object members ordered stored ih =>
    intro j hj
    rw [contents, memberContents_eq] at hj
    refine Stored.of_itemContents (List.forall_mem_map.2 fun m hm => ?_) hj
    exact ⟨stored m hm, ih m hm⟩
  | _ => exact fun j hj => absurd hj List.not_mem_nil

end TreeQuery.Json
