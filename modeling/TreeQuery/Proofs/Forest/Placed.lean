import TreeQuery.Proofs.Forest.Address
import TreeQuery.Proofs.Forest.Reachable
import TreeQuery.Proofs.Forest.Replaced
import TreeQuery.Proofs.Forest.Shape

namespace TreeQuery
namespace Forest

variable {F G : Forest} {n m p c r : NodeId}

theorem position?_copy (hF : F.WellFormed) (hn : F.contains n = true) :
    (F.copy r).2.position? n = F.position? n := by
  have hparent : (F.copy r).2.parent n = F.parent n := (links_copy_of_contains hn).1
  cases hp : F.parent n with
  | none => rw [position?_of_root hp, position?_of_root (hparent.trans hp)]
  | some p => rw [position?_eq hp, position?_eq (hparent.trans hp),
      (links_copy_of_contains (hF.contains_parent hp)).2]

/-- The node that stands for `m` once a copy of `r` has been kept, another one made, and this one put
in its place by `f`. -/
def placed (F : Forest) (r : NodeId) (f : NodeId → NodeId) (m : NodeId) : NodeId :=
  f ((F.copy r).2.image r m)

section Placed
variable {f : NodeId → NodeId} (hF : F.WellFormed) (hr : F.contains r = true)
  (h : Replaced (F.copy r).2 n r f G)
include hF hr

theorem carries_second : Carries F ((F.copy r).2.copy r).2 ((F.copy r).2.image r) r :=
  (carries_copy_of_contains hr r).trans hF (hF.copy r) (carries_copy (hF.copy r) r)

theorem value_second (hm : F.Within m r) : ((F.copy r).2.copy r).2.value ((F.copy r).2.image r m) =
    (F.value m).mapNode ((F.copy r).2.image r) := by
  have hget : (F.copy r).2.get m = F.get m := get_copy_of_contains (contains_of_within hr hm)
  rw [value_image (hF.copy r) ((within_copy_iff hF hr).2 hm), value, hget]
  rfl

theorem second_ne_first (hm : F.Within m r) : (F.copy r).2.image r m ≠ F.image r m := by
  have hw : (F.copy r).2.Within m r := (within_copy_iff hF hr).2 hm
  intro e
  refine not_contains_of_copied (copied_of_within (hF.copy r) hw) ?_
  rw [e]
  exact (contains_copy hF).2 (.inr ⟨m, copied_of_within hF hm⟩)

include h

theorem carries_placed : Carries F G (F.placed r f) r := by
  refine (carries_second hF hr).trans hF ((hF.copy r).copy r) ?_
  rw [image_self]
  exact h.carries

omit hF hr in
theorem size_le_placed : F.size ≤ G.size := by
  have hsize := h.size_le
  rw [size_copy, size_copy] at hsize
  omega

theorem value_placed (hm : F.Within m r) :
    G.value (F.placed r f m) = (F.value m).mapNode ((F.copy r).2.image r) := by
  have hw := (carries_second hF hr).within hF ((hF.copy r).copy r) hm
  rw [image_self] at hw
  rw [placed, value_of_label (h.label_eq _ hw), value_second hF hr hm]

omit hr in
theorem kept_apart (hn : F.contains n = true) : Carries ((F.copy r).2.copy r).2 G id (F.copy r).1 ∧
    ∀ m, ((F.copy r).2.copy r).2.Within m (F.copy r).1 →
      G.label m = ((F.copy r).2.copy r).2.label m :=
  h.apart _ ((contains_copy hF).2 (.inr ⟨r, copied_self F r⟩)) (not_within_copy hF hn)

omit hr in
theorem carries_kept (hn : F.contains n = true) : Carries F G (F.image r) r := by
  have hk : (F.copy r).2.contains (F.copy r).1 = true :=
    (contains_copy hF).2 (.inr ⟨r, copied_self F r⟩)
  have hkept := (carries_copy_of_contains hk r).trans (hF.copy r) ((hF.copy r).copy r)
    (kept_apart hF h hn).1
  refine (carries_copy hF r).trans hF (hF.copy r) (g := id ∘ id) ?_
  rw [image_self]
  exact hkept

omit hr in
theorem value_kept (hn : F.contains n = true) (hm : F.Within m r) :
    G.value (F.image r m) = (F.value m).mapNode (F.image r) := by
  have hk : (F.copy r).2.contains (F.copy r).1 = true :=
    (contains_copy hF).2 (.inr ⟨r, copied_self F r⟩)
  have hw := (carries_copy hF r).within hF (hF.copy r) hm
  rw [image_self] at hw
  have hget : ((F.copy r).2.copy r).2.get (F.image r m) = (F.copy r).2.get (F.image r m) :=
    get_copy_of_contains (contains_of_within hk hw)
  rw [value_of_label ((kept_apart hF h hn).2 _ ((within_copy_iff (hF.copy r) hk).2 hw)), value,
    hget, ← value_image hF hm, value]

variable (hn : F.contains n = true)
include hn

/-- Only the root of a copy that a root takes over does not stand where it was made. -/
theorem placed_eq_image (hm : F.Within m r) (hkeep : F.parent n ≠ none ∨ m ≠ r) :
    F.placed r f m = (F.copy r).2.image r m := by
  have hparent : (F.copy r).2.parent n = F.parent n := (links_copy_of_contains hn).1
  cases hp : F.parent n with
  | some p => exact (h.of_child p (hparent.trans hp)).1 _
  | none =>
    refine (h.of_root (hparent.trans hp)).2.1 _ ?_
    rw [← image_self]
    have hw : (F.copy r).2.Within m r := (within_copy_iff hF hr).2 hm
    intro e
    exact hkeep.resolve_left (absurd hp) ((carries_copy (hF.copy r) r).injective m r hw .refl e)

omit hF hr in
theorem placed_self_of_root (hroot : F.parent n = none) : F.placed r f r = n := by
  rw [placed, image_self]
  exact (h.of_root ((links_copy_of_contains hn).1.trans hroot)).1

theorem placed_ne_image (hm : F.Within m r) : F.placed r f m ≠ F.image r m := by
  by_cases hkeep : F.parent n ≠ none ∨ m ≠ r
  · rw [placed_eq_image hF hr h hn hm hkeep]
    exact second_ne_first hF hr hm
  · obtain ⟨hroot, rfl⟩ := not_or.1 hkeep |>.imp not_not.1 not_not.1
    rw [placed_self_of_root h hn hroot]
    rintro rfl
    exact not_contains_of_copied (copied_of_within hF hm) hn

omit hr in
/-- A reference to the root of the tree leads to the root of the copy. A root does not take that over
but leaves it behind, alone. -/
theorem left_behind (hroot : F.parent n = none) :
    (F.copy r).2.image r r ≠ n ∧ G.parent ((F.copy r).2.image r r) = none ∧
      G.children ((F.copy r).2.image r r) = [] := by
  obtain ⟨-, -, hparent, hchildren⟩ := h.of_root ((links_copy_of_contains hn).1.trans hroot)
  rw [image_self]
  refine ⟨?_, hparent, hchildren⟩
  rintro rfl
  exact not_contains_of_copied (copied_self _ r) ((contains_copy hF).2 (.inl hn))

/-- The values at two counterparts look alike unless they are references to the root of the tree, of
which one side has been left behind. -/
theorem valuesMatch_placed (hnumber : ∀ x, F.value m = .float x → x.isNaN = false)
    (hm : F.Within m r) : G.valuesMatch (F.placed r f r) (F.image r r)
      (G.value (F.placed r f m)) (G.value (F.image r m)) = true ↔
      F.parent n ≠ none ∨ F.value m ≠ .node r := by
  have hplaced := carries_placed hF hr h
  have hkept := carries_kept hF h hn
  rw [value_placed hF hr h hm, value_kept hF h hn hm]
  -- a reference into the tree, one out of it, and what is no node
  by_cases hv : ∃ t, F.value m = .node t
  · obtain ⟨t, ht⟩ := hv
    rw [ht]
    by_cases hw : F.Within t r
    · by_cases hkeep : F.parent n ≠ none ∨ t ≠ r
      · have hmatch := valuesMatch_carried hplaced hkept hF h.wellFormed hr (size_le_placed h) hw
        rw [placed_eq_image hF hr h hn hw hkeep] at hmatch
        refine ⟨fun _ => hkeep.imp_right fun hne e => hne (Value.node.inj e), fun _ => hmatch⟩
      · -- the root that is replaced does not take over the root of the copy
        obtain ⟨hroot, rfl⟩ := not_or.1 hkeep |>.imp not_not.1 not_not.1
        obtain ⟨hne, hparent, -⟩ := left_behind hF h hn hroot
        refine ⟨fun hmatch => ?_, fun h => absurd h (by simp [hroot])⟩
        rcases valuesMatch_node.1 hmatch with e | ⟨l, hl, -⟩
        · exact absurd e (second_ne_first hF hr .refl)
        · rw [placed_self_of_root h hn hroot, pathFrom?_of_root hparent hne] at hl
          exact absurd hl nofun
    · have hw' : ¬ (F.copy r).2.Within t r := fun hw' => hw ((within_copy_iff hF hr).1 hw')
      refine ⟨fun _ => .inr fun e => hw ?_, fun _ => ?_⟩
      · rw [Value.node.inj e]
        exact .refl
      · refine valuesMatch_node.2 (.inl ?_)
        rw [image_of_not_within hF hw, image_of_not_within (hF.copy r) hw']
  · have hv (t : NodeId) : F.value m ≠ .node t := fun e => hv ⟨t, e⟩
    rw [Value.mapNode_of_ne hv, Value.mapNode_of_ne hv]
    exact ⟨fun _ => .inr (hv r), fun _ => valuesMatch_self hv hnumber⟩

theorem sameShape_placed
    (hnumber : ∀ m, F.Within m r → ∀ x, F.value m = .float x → x.isNaN = false) :
    G.sameShape (F.placed r f r) (F.copy r).1 = true ↔
      F.parent n ≠ none ∨ ∀ m, F.Within m r → F.value m ≠ .node r := by
  have hshape := sameShape_carried (carries_placed hF hr h) (carries_kept hF h hn) hF
    (fun m hm => placed_ne_image hF hr h hn hm) (size_le_placed h)
  rw [image_self] at hshape
  rw [hshape, ← image_self]
  constructor
  · intro hall
    by_cases hroot : F.parent n = none
    · exact .inr fun m hm =>
        ((valuesMatch_placed hF hr h hn (hnumber m hm) hm).1 (hall m hm)).resolve_left
          (absurd hroot)
    · exact .inl hroot
  · exact fun hvalues m hm => (valuesMatch_placed hF hr h hn (hnumber m hm) hm).2
      (hvalues.imp_right fun hall => hall m hm)

theorem value_at?_placed {q q' : NodePath} {t : NodeId} (hm : F.at? r q = some m)
    (ht : F.at? r q' = some t) (hv : F.value m = .node t) :
    ∃ m' t', G.at? (F.placed r f r) q = some m' ∧ G.value m' = .node t' ∧
      if F.parent n = none ∧ t = r then
        t' ≠ F.placed r f r ∧ G.parent t' = none ∧ G.children t' = []
      else G.at? (F.placed r f r) q' = some t' := by
  have hplaced := carries_placed hF hr h
  have hat (q : NodePath) : G.at? (F.placed r f r) q = (F.at? r q).map (F.placed r f) :=
    hplaced.at? hF .refl q
  refine ⟨F.placed r f m, (F.copy r).2.image r t, ?_, ?_, ?_⟩
  · rw [hat, hm]
    rfl
  · rw [value_placed hF hr h (within_of_at? hF hm), hv]
    rfl
  · split
    · next hleft =>
      obtain ⟨hroot, rfl⟩ := hleft
      rw [placed_self_of_root h hn hroot]
      exact left_behind hF h hn hroot
    · next hkeep =>
      rw [hat, ht, Option.map_some, placed_eq_image hF hr h hn (within_of_at? hF ht)
        (not_and_or.1 hkeep)]

end Placed
end Forest

open Forest in
/-- Replacing a node through a result puts a copy of the other one in its place, where it has the
shape that a copy taken just before has. Only a root that is replaced by a tree with references to
its own root differs: these lead to a node that is left behind, alone. -/
theorem Entity.set_node_places_copy {F : Forest} (hF : F.Reachable) {E : Evaluator} {e : Entity}
    {v : Value} {r : NodeId} (hkind : e.kind = .node) (hn : F.contains e.node = true)
    (hr : F.contains r = true) (hv : E.convertTo (F.copy r).2 "node" v = .ok (.node r))
    (hnumber : ∀ m, F.Within m r → ∀ x, F.value m = .float x → x.isNaN = false) :
    ∃ G place, e.set E (F.copy r).2 v = .ok G ∧
      (match F.parent e.node with
        | some p => ∃ i, F.position? e.node = some i ∧ (G.children p)[i]? = some place
        | none => place = e.node) ∧
      (G.sameShape place (F.copy r).1 = true ↔
        F.parent e.node ≠ none ∨ ∀ m, F.Within m r → F.value m ≠ .node r) ∧
      ∀ q m q' t, F.at? r q = some m → F.at? r q' = some t → F.value m = .node t →
        ∃ m' t', G.at? place q = some m' ∧ G.value m' = .node t' ∧
          if F.parent e.node = none ∧ t = r then
            t' ≠ place ∧ G.parent t' = none ∧ G.children t' = []
          else G.at? place q' = some t' := by
  have hF := hF.wellFormed
  obtain ⟨G, f, hG, h⟩ := exists_replaced (hF.copy r) ((contains_copy hF).2 (.inl hn)) r
  refine ⟨G, F.placed r f r, ?_, ?_, sameShape_placed hF hr h hn hnumber,
    fun q m q' t => value_at?_placed hF hr h hn⟩
  · unfold set
    rw [hkind, hv]
    simp only [bind, Except.bind, hG]
    rfl
  · cases hp : F.parent e.node with
    | none => exact placed_self_of_root h hn hp
    | some p =>
      obtain ⟨hf, i, hi, hget⟩ := h.of_child p ((links_copy_of_contains hn).1.trans hp)
      refine ⟨i, (position?_copy hF hn).symm.trans hi, ?_⟩
      rw [placed, hf, image_self]
      exact hget

/-- A root that is replaced by a node whose value is this node itself. -/
theorem Entity.set_node_places_copy_self :
    let F := [Edit.create "t" .null, .create "r" .null, .setValue ⟨1⟩ (.node ⟨1⟩)].foldl Edit.run {}
    ∃ G, Entity.set {} (F.copy ⟨1⟩).2 ⟨⟨0⟩, .node, none, 1⟩ (.node ⟨1⟩) = .ok G ∧
      G.sameShape ⟨0⟩ (F.copy ⟨1⟩).1 = false := by
  intro F
  have hF : F.Reachable := Forest.Reachable.empty.foldl (by decide +kernel)
  have hvalues (m : NodeId) (hm : F.Within m ⟨1⟩) (x : Binary64) (hx : F.value m = .float x) :
      x.isNaN = false := by
    have hlt : m.index < 2 := Forest.contains_iff.1 (Forest.contains_of_within (by decide) hm)
    have h0 : F.value ⟨0⟩ = .null := by decide
    have h1 : F.value ⟨1⟩ = .node ⟨1⟩ := by decide
    obtain ⟨_ | _ | i⟩ := m
    · exact absurd (h0.symm.trans hx) nofun
    · exact absurd (h1.symm.trans hx) nofun
    · exact absurd hlt (by simp)
  obtain ⟨G, place, hG, hplace, hshape, -⟩ := set_node_places_copy (v := .node ⟨1⟩)
    (e := ⟨⟨0⟩, .node, none, 1⟩) (E := {}) hF rfl (by decide) (by decide) (by decide) hvalues
  have hroot : F.parent ⟨0⟩ = none := by decide
  rw [hroot] at hplace
  obtain rfl : place = ⟨0⟩ := hplace
  refine ⟨G, hG, ?_⟩
  rw [← Bool.not_eq_true, hshape]
  rintro (h | h)
  · exact h hroot
  · exact h ⟨1⟩ .refl (by decide)

end TreeQuery
