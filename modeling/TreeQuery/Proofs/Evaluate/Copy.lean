import TreeQuery.Proofs.Evaluate.Mirror
import TreeQuery.Proofs.Forest.Address
import TreeQuery.Proofs.Forest.Replaced

namespace TreeQuery

variable {F G H : Forest} {f : NodeId → NodeId} {r c n m : NodeId} {E : Evaluator}

namespace Forest

theorem mirrors_copy (hF : F.WellFormed) (hroot : F.parent r = none)
    (hclosed : ∀ m t, F.Within m r → F.value m = .node t → F.Within t r) :
    Mirrors F (F.copy r).2 (F.image r) r where
  toCarries := carries_copy hF r
  wellFormed := hF
  wellFormed' := hF.copy r
  root := hroot
  root' := by rw [image_self, parent_copy]
  value_eq _ hm := value_image hF hm
  closed := hclosed

theorem mirrors_id_copy (hF : F.WellFormed) (hr : F.contains r = true) (hroot : F.parent r = none)
    (hclosed : ∀ m t, F.Within m r → F.value m = .node t → F.Within t r) :
    Mirrors F (F.copy r).2 id r where
  toCarries := carries_copy_of_contains hr r
  wellFormed := hF
  wellFormed' := hF.copy r
  root := hroot
  root' := (links_copy_of_contains hr).1.trans hroot
  value_eq m hm := by
    have hget : (F.copy r).2.get m = F.get m := get_copy_of_contains (contains_of_within hr hm)
    rw [Value.mapNode_id, id, value, hget]
    rfl
  closed := hclosed

theorem Mirrors.of_id (h : Mirrors F G id r) (h' : Mirrors F H f r)
    (hwithin : ∀ m, G.Within m r ↔ F.Within m r) : Mirrors G H f r where
  name_eq m hm := (h'.name_eq m ((hwithin m).1 hm)).trans (h.name_eq m ((hwithin m).1 hm)).symm
  children_eq m hm := by
    have hchildren := h.children_eq m ((hwithin m).1 hm)
    rw [List.map_id] at hchildren
    exact (h'.children_eq m ((hwithin m).1 hm)).trans (congrArg (List.map f) hchildren.symm)
  injective m m' hm hm' := h'.injective m m' ((hwithin m).1 hm) ((hwithin m').1 hm')
  wellFormed := h.wellFormed'
  wellFormed' := h'.wellFormed'
  root := h.root'
  root' := h'.root'
  value_eq m hm := by
    have hvalue := h.value_eq m ((hwithin m).1 hm)
    rw [Value.mapNode_id] at hvalue
    exact (h'.value_eq m ((hwithin m).1 hm)).trans (congrArg (Value.mapNode f) hvalue.symm)
  closed m t hm ht := by
    have hvalue := h.value_eq m ((hwithin m).1 hm)
    rw [Value.mapNode_id] at hvalue
    exact (hwithin t).2 (h.closed m t ((hwithin m).1 hm) (hvalue.symm.trans ht))

end Forest

/-- An entity that is read at the copy of a node, the tree of the copies having the root `r'`. Both
have the name and the address of one place, and are read as the same value or as a node and its copy,
or fail in the same way. -/
structure Entity.CopyOf (E : Evaluator) (F : Forest) (r' : NodeId) (x x' : Entity) : Prop where
  kind_eq : x'.kind = x.kind
  convert_eq : x'.convert = x.convert
  count_eq : x'.count = x.count
  at_path : F.at? r' (F.path x.node) = some x'.node
  name_eq : F.name x'.node = F.name x.node
  path_eq : F.path x'.node = F.path x.node
  value : ∀ v, (∀ n, v ≠ .node n) → (x.value E F = .ok v ↔ x'.value E F = .ok v)
  node : ∀ n, x.value E F = .ok (.node n) →
    ∃ n', F.at? r' (F.path n) = some n' ∧ x'.value E F = .ok (.node n')
  error : ∀ err, x.value E F = .error err ↔ x'.value E F = .error err

theorem Forest.Mirrors.copyOf (h : Mirrors F F f r) (hE : E.convert = TreeQuery.convert) {x : Entity}
    (hx : F.Within x.node r) : Entity.CopyOf E F (f r) x (x.mapNode f) := by
  have hvalue := h.entity_value_eq hE hx
  have hat {n : NodeId} (hn : F.Within n r) : F.at? (f r) (F.path n) = some (f n) := by
    rw [h.toCarries.at? h.wellFormed .refl, at?_path h.wellFormed h.root hn]
    rfl
  refine ⟨rfl, rfl, rfl, hat hx, h.name_eq _ hx, h.path_eq hx, fun v hv => ?_, fun n hn => ?_,
    fun err => ?_⟩
  · rw [hvalue]
    cases x.value E F with
    | error e => simp [Except.map]
    | ok w => simp [Except.map, Value.mapNode_eq_iff hv]
  · refine ⟨f n, hat (h.within_of_value hE hx hn), ?_⟩
    rw [hvalue, hn]
    rfl
  · rw [hvalue]
    cases x.value E F <;> simp [Except.map]

open Forest in
/-- In the copy of a tree whose values lead nowhere else an expression gives what it gives in the
tree itself: the same error, or the copies of the same entities in the same order. The tree itself
gives what it gave before it was copied. -/
theorem Evaluator.evaluateText_copy (hF : F.WellFormed) (hr : F.contains r = true)
    (hroot : F.parent r = none)
    (hclosed : ∀ m t, F.Within m r → F.value m = .node t → F.Within t r) (hc : F.Within c r)
    (hE : E.convert = TreeQuery.convert) (text : String) :
    let G := (F.copy r).2
    E.evaluateText G text c = E.evaluateText F text c ∧
    ∃ c', G.at? (F.copy r).1 (G.path c) = some c' ∧
      ((∃ err, E.evaluateText G text c = .error err ∧ E.evaluateText G text c' = .error err) ∨
        ∃ m m', E.evaluateText G text c = .ok m ∧ E.evaluateText G text c' = .ok m' ∧
          m'.kind = m.kind ∧ m'.convert = m.convert ∧
          List.Forall₂ (Entity.CopyOf E G (F.copy r).1) m.entities m'.entities) := by
  intro G
  have hid := mirrors_id_copy hF hr hroot hclosed
  have h := hid.of_id (mirrors_copy hF hroot hclosed) fun m => within_copy_iff hF hr
  have hc' : G.Within c r := (within_copy_iff hF hr).2 hc
  obtain ⟨hbefore, -⟩ := hid.evaluateText hE text hc
  obtain ⟨hcopy, hwithin⟩ := h.evaluateText hE text hc'
  refine ⟨?_, F.image r c, ?_, ?_⟩
  · refine hbefore.trans ?_
    cases E.evaluateText F text c with
    | error err => rfl
    | ok m => exact congrArg Except.ok m.mapNode_id
  · rw [← image_self, h.toCarries.at? h.wellFormed .refl, at?_path h.wellFormed h.root hc']
    rfl
  · cases hm : E.evaluateText G text c with
    | error err =>
      exact .inl ⟨err, rfl, hcopy.trans (congrArg (Except.map (Match.mapNode _)) hm)⟩
    | ok m =>
      refine .inr ⟨m, _, rfl, hcopy.trans (congrArg (Except.map (Match.mapNode _)) hm), rfl, rfl, ?_⟩
      rw [← image_self]
      refine List.forall₂_map_right_iff.2 (List.forall₂_same.2 fun x hx => ?_)
      exact h.copyOf hE (hwithin m hm x hx)

open Forest in
/-- The children of a root, one with a reference to the root and one that is an expression for it. -/
theorem Evaluator.evaluateText_copy_children :
    let F := [Edit.create "r" .null, .create "a" (.node ⟨0⟩), .create "b" (.string "@/.?node"),
      .add ⟨0⟩ ⟨1⟩, .add ⟨0⟩ ⟨2⟩].foldl Edit.run {}
    let G := (F.copy ⟨0⟩).2
    ∃ m, Evaluator.evaluateText {} G "@@/*?value" ⟨3⟩ = .ok m ∧ m.nodes = [⟨4⟩, ⟨3⟩] := by
  intro F G
  have hF : F.Reachable := Reachable.empty.foldl (by decide +kernel)
  have hclosed (m t : NodeId) (hm : F.Within m ⟨0⟩) (ht : F.value m = .node t) :
      F.Within t ⟨0⟩ := by
    have hlt : m.index < 3 := contains_iff.1 (contains_of_within (by decide) hm)
    have h0 : F.value ⟨0⟩ = .null := by decide
    have h1 : F.value ⟨1⟩ = .node ⟨0⟩ := by decide
    have h2 : F.value ⟨2⟩ = .string "@/.?node" := by decide
    obtain ⟨_ | _ | _ | i⟩ := m
    · exact absurd (h0.symm.trans ht) nofun
    · exact Value.node.inj (h1.symm.trans ht) ▸ .refl
    · exact absurd (h2.symm.trans ht) nofun
    · exact absurd hlt (by simp)
  obtain ⟨-, c', hc', hresult⟩ := evaluateText_copy (c := ⟨0⟩) (E := {}) hF.wellFormed
    (by decide) (by decide) hclosed .refl rfl "@@/*?value"
  have hroot : G.at? (F.copy ⟨0⟩).1 (G.path ⟨0⟩) = some ⟨3⟩ := by decide +kernel
  have hplain : Evaluator.evaluateText {} G "@@/*?value" ⟨0⟩ =
      .ok ⟨.value, none, [⟨⟨1⟩, .value, none, 2⟩, ⟨⟨0⟩, .node, none, 1⟩]⟩ := by decide +kernel
  have hchild : G.at? (F.copy ⟨0⟩).1 (G.path ⟨1⟩) = some ⟨4⟩ := by decide +kernel
  obtain rfl : c' = ⟨3⟩ := Option.some.inj (hc'.symm.trans hroot)
  rcases hresult with ⟨err, herr, -⟩ | ⟨m, ⟨kind, convert, entities⟩, hm, hm', -, -, hall⟩
  · exact absurd (hplain.symm.trans herr) nofun
  obtain rfl := Except.ok.inj (hplain.symm.trans hm)
  obtain ⟨x, xs, hx, hxs, rfl⟩ := List.forall₂_cons_left_iff.1 hall
  obtain ⟨y, ys, hy, hys, rfl⟩ := List.forall₂_cons_left_iff.1 hxs
  obtain rfl := List.forall₂_nil_left_iff.1 hys
  refine ⟨_, hm', ?_⟩
  rw [Match.nodes, List.map_cons, List.map_singleton,
    Option.some.inj (hx.at_path.symm.trans hchild), Option.some.inj (hy.at_path.symm.trans hroot)]

end TreeQuery
