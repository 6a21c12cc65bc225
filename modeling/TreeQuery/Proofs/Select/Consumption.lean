import TreeQuery.Proofs.Select.Combination

namespace TreeQuery

/-- One turn of a history: a node is given, or the forest is edited. -/
inductive Turn
  | give (n : NodeId)
  | edit (e : Edit)

namespace Turn

def given? : Turn → Option NodeId
  | give n => some n
  | edit _ => none

def given (turns : List Turn) : List NodeId := (turns.filterMap given?).reverse

theorem given_give (n : NodeId) (turns : List Turn) : given (give n :: turns) = given turns ++ [n] :=
  List.reverse_cons ..

end Turn

/-- The history of a cursor from a forest `F` on, the latest turn first, that has led to the forest
and the cursor at the end. What may be done to the forest depends on what came before it. -/
inductive Consumed (allowed : List Turn → Forest → Edit → Prop) (F : Forest) (c : Cursor) :
    List Turn → Forest → Cursor → Prop
  | opened : Consumed allowed F c [] F c
  | give {turns G d n d'} (h : Consumed allowed F c turns G d) (hp : d.pull? G = some (n, d')) :
      Consumed allowed F c (.give n :: turns) G d'
  | edit {turns G d e} (h : Consumed allowed F c turns G d) (he : allowed turns G e) :
      Consumed allowed F c (.edit e :: turns) (e.run G) d

namespace Cursor

variable {F G : Forest} {n m : NodeId} {stack : List NodeId} {turns : List Turn} {d d' : Cursor}

theorem pull?_descendants_cons (hG : G.WellFormed) (m : NodeId) (stack : List NodeId)
    (source : Cursor) : (descendants (m :: stack) source).pull? G =
      some (m, descendants (G.children m ++ stack) source) := by
  rw [pull?_eq hG, advanceWith, Event.pull?]

theorem pull?_descendants_nil (hG : G.WellFormed) : (descendants [] (list [])).pull? G = none := by
  rw [pull?_eq hG]
  rfl

/-- What may be done while the nodes below a node are read: nodes that were given are taken out, any
node gets another name or value. -/
inductive Trimming (turns : List Turn) (G : Forest) : Edit → Prop
  | untie (m : NodeId) (hm : m ∈ Turn.given turns) : Trimming turns G (.untie m)
  | setName (m : NodeId) (name : String) : Trimming turns G (.setName m name)
  | setValue (m : NodeId) (v : Value) : Trimming turns G (.setValue m v)

/-- The nodes below `n` are partly given; the stack begins the others, and these have the children
that they had in the forest `F` where the sequence was opened. -/
structure Underway (F : Forest) (n : NodeId) (turns : List Turn) (G : Forest)
    (stack : List NodeId) : Prop where
  wellFormed : G.WellFormed
  split : F.descendants n = Turn.given turns ++ stack.flatMap F.preorder
  untouched : ∀ m ∈ stack.flatMap F.preorder, G.children m = F.children m

namespace Underway

theorem opened (hF : F.WellFormed) (n : NodeId) : Underway F n [] F (F.children n) where
  wellFormed := hF
  split := Forest.descendants_eq hF n
  untouched _ _ := rfl

theorem give (hF : F.WellFormed) (h : Underway F n turns G (m :: stack)) :
    Underway F n (.give m :: turns) G (G.children m ++ stack) := by
  have hsplit : (m :: stack).flatMap F.preorder =
      m :: (F.children m ++ stack).flatMap F.preorder := by
    rw [List.flatMap_cons, Forest.preorder_eq hF, List.flatMap_append, List.cons_append]
  have hm : G.children m = F.children m :=
    h.untouched m (hsplit ▸ List.mem_cons_self)
  rw [hm]
  refine ⟨h.wellFormed, ?_, fun k hk => h.untouched k (hsplit ▸ List.mem_cons_of_mem m hk)⟩
  rw [h.split, hsplit, Turn.given_give, List.append_assoc, List.singleton_append]

theorem mem_of_child (hF : F.WellFormed) {k : NodeId} (hm : m ∈ stack.flatMap F.preorder)
    (hk : k ∈ F.children m) : k ∈ stack.flatMap F.preorder := by
  obtain ⟨r, hr, hmr⟩ := List.mem_flatMap.1 hm
  refine List.mem_flatMap.2 ⟨r, hr, (Forest.mem_preorder hF).2 ?_⟩
  exact .head (hF.parent_of_mem hk) ((Forest.mem_preorder hF).1 hmr)

theorem not_mem_of_given (hF : F.WellFormed) (h : Underway F n turns G stack)
    (hm : m ∈ Turn.given turns) : m ∉ stack.flatMap F.preorder := by
  have hnodup : (F.descendants n).Nodup := (Forest.nodup_preorder hF n).tail
  rw [h.split] at hnodup
  exact fun hmem => List.disjoint_of_nodup_append hnodup hm hmem

theorem edit_of_links (h : Underway F n turns G stack) {e : Edit}
    (hparent : ∀ m, (e.run G).parent m = G.parent m)
    (hchildren : ∀ m, (e.run G).children m = G.children m) :
    Underway F n (.edit e :: turns) (e.run G) stack where
  wellFormed := h.wellFormed.of_links hparent hchildren
  split := h.split
  untouched m hm := (hchildren m).trans (h.untouched m hm)

theorem edit (hF : F.WellFormed) (h : Underway F n turns G stack) {e : Edit}
    (he : Trimming turns G e) : Underway F n (.edit e :: turns) (e.run G) stack := by
  cases he with
  | untie x hx =>
    refine ⟨h.wellFormed.untie x, h.split, fun m hm => ?_⟩
    -- the parent of what is cut off has been given, too
    have hchild : x ∉ F.children m := fun hmem => h.not_mem_of_given hF hx (mem_of_child hF hm hmem)
    rw [Edit.run, Forest.children_untie h.wellFormed, h.untouched m hm,
      List.erase_of_not_mem hchild]
  | setName x name =>
    exact h.edit_of_links (Forest.parent_setName G x · name) (Forest.children_setName G x · name)
  | setValue x v =>
    exact h.edit_of_links (Forest.parent_setValue G x · v) (Forest.children_setValue G x · v)

end Underway

theorem exists_underway (hF : F.WellFormed) (h : Consumed Trimming F (.beneath F n) turns G d) :
    ∃ stack, d = .descendants stack (.list []) ∧ Underway F n turns G stack := by
  induction h with
  | opened => exact ⟨F.children n, rfl, .opened hF n⟩
  | give _ hp ih =>
    obtain ⟨stack, rfl, hunder⟩ := ih
    cases stack with
    | nil =>
      rw [pull?_descendants_nil hunder.wellFormed] at hp
      exact absurd hp nofun
    | cons m stack =>
      rw [pull?_descendants_cons hunder.wellFormed] at hp
      obtain ⟨rfl, rfl⟩ := Prod.mk.inj (Option.some.inj hp)
      exact ⟨_, rfl, hunder.give hF⟩
  | edit _ he ih =>
    obtain ⟨stack, rfl, hunder⟩ := ih
    exact ⟨stack, rfl, hunder.edit hF he⟩

/-- However the nodes below a node are pulled while some of those that were given are taken out and
any nodes are renamed or get other values, the nodes that are given are those that were below it
when the sequence was opened, once each and in document order, and after the last one comes the
end. -/
theorem beneath_outlasts_cuts (hF : F.WellFormed)
    (h : Consumed Trimming F (.beneath F n) turns G d) :
    (F.descendants n).Nodup ∧ Turn.given turns <+: F.descendants n ∧
    (d.pull? G).map Prod.fst = (F.descendants n)[(Turn.given turns).length]? ∧
    (d.pull? G = none ↔ Turn.given turns = F.descendants n) := by
  obtain ⟨stack, rfl, hunder⟩ := exists_underway hF h
  have hstart : Turn.given turns <+: F.descendants n := ⟨_, hunder.split.symm⟩
  have hnext : ((descendants stack (list [])).pull? G).map Prod.fst =
      (F.descendants n)[(Turn.given turns).length]? := by
    rw [hunder.split, List.getElem?_append_right le_rfl, Nat.sub_self]
    cases stack with
    | nil =>
      rw [pull?_descendants_nil hunder.wellFormed]
      rfl
    | cons m stack =>
      rw [pull?_descendants_cons hunder.wellFormed, List.flatMap_cons, Forest.preorder_eq hF]
      rfl
  refine ⟨(Forest.nodup_preorder hF n).tail, hstart, hnext, ?_⟩
  rw [← Option.map_eq_none_iff (f := Prod.fst), hnext, List.getElem?_eq_none_iff]
  exact ⟨hstart.eq_of_length_le, fun hall => (congrArg List.length hall).ge⟩

/-- A child is taken out after it was given, and its own child, which has got another name since, is
the next node. -/
theorem beneath_outlasts_cuts_renamed :
    let F := [Edit.create "r" .null, .create "a" .null, .create "b" .null, .create "c" .null,
      .add ⟨0⟩ ⟨1⟩, .add ⟨1⟩ ⟨2⟩, .add ⟨0⟩ ⟨3⟩].foldl Edit.run {}
    let G := [Edit.untie ⟨1⟩, .setName ⟨2⟩ "d"].foldl Edit.run F
    F.WellFormed ∧ ∃ d, Consumed Trimming F (.beneath F ⟨0⟩)
        [.edit (.setName ⟨2⟩ "d"), .edit (.untie ⟨1⟩), .give ⟨1⟩] G d ∧
      G.children ⟨0⟩ = [⟨3⟩] ∧ (d.pull? G).map Prod.fst = some ⟨2⟩ := by
  intro F G
  have hF : F.WellFormed :=
    (Forest.Reachable.empty.foldl (by decide +kernel) : F.Reachable).wellFormed
  have hgive : (Cursor.beneath F ⟨0⟩).pull? F = some (⟨1⟩, .descendants [⟨2⟩, ⟨3⟩] (.list [])) :=
    pull?_descendants_cons hF ⟨1⟩ [⟨3⟩] (.list [])
  have h : Consumed Trimming F (.beneath F ⟨0⟩)
      [.edit (.setName ⟨2⟩ "d"), .edit (.untie ⟨1⟩), .give ⟨1⟩] G
      (.descendants [⟨2⟩, ⟨3⟩] (.list [])) :=
    .edit (.edit (.give .opened hgive) (.untie _ List.mem_cons_self)) (.setName _ _)
  refine ⟨hF, _, h, by decide +kernel, ?_⟩
  rw [(beneath_outlasts_cuts hF h).2.2.1]
  decide +kernel

end Cursor
end TreeQuery
