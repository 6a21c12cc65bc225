import TreeQuery.Proofs.Forest.Copy

namespace TreeQuery

/-- A forest to which nodes are being copied, and these nodes with their copies. -/
structure Cloning where
  forest : Forest
  copies : List (NodeId × NodeId)

def Cloning.adopt (c : NodeId) : NodeId × Cloning → Cloning
  | (d, s) => { s with forest := s.forest.adopt c d }

namespace Forest

/-- The first pass copies a node and, one after the other, the subtrees of its children. A copy is
made before those of the children, so that copies are numbered in document order. -/
def cloneStructure : Nat → NodeId → Cloning → NodeId × Cloning
  | 0, n, s => (n, s)
  | fuel + 1, n, s =>
    let (c, F) := s.forest.create (s.forest.name n) (s.forest.value n)
    (c, (s.forest.children n).foldl (fun s child => .adopt c (cloneStructure fuel child s))
      ⟨F, s.copies ++ [(n, c)]⟩)

/-- The second pass: where a copied node refers to another one, its copy refers to the copy of
that. -/
def redirect (copies : List (NodeId × NodeId)) (F : Forest) (p : NodeId × NodeId) : Forest :=
  match F.value p.1 with
  | .node target =>
    match copies.lookup target with
    | some t => F.setValue p.2 (.node t)
    | none => F
  | _ => F

/-- Copies a subtree in two passes: its structure, then the references within it. -/
def clone (F : Forest) (n : NodeId) : NodeId × Forest :=
  let (c, s) := cloneStructure (F.size + 1) n ⟨F, []⟩
  (c, s.copies.foldl (redirect s.copies) s.forest)

variable {F G H : Forest} {n m p c d : NodeId} {done rest cs cs' : List NodeId}
variable {s s' s'' : Cloning}

theorem adopt_of_root (hd : F.parent d = none) (c : NodeId) :
    F.adopt c d = (F.setParent d (some c)).setChildren c (F.children c ++ [d]) := by
  have huntie : (F.untie d).2 = F := by
    rw [untie, hd]
  rw [adopt, huntie, tie, List.insertIdx_length_self]

theorem size_adopt_of_root (hd : F.parent d = none) (c : NodeId) :
    (F.adopt c d).size = F.size := by
  rw [adopt_of_root hd, setChildren, size_update, setParent, size_update]

theorem get_adopt_self (hd : F.parent d = none) (hcd : c ≠ d) (hc : F.contains c = true) :
    (F.adopt c d).get c = { F.get c with children := F.children c ++ [d] } := by
  rw [adopt_of_root hd, setChildren, get_update, setParent, contains_update, if_pos ⟨rfl, hc⟩,
    get_update_of_ne _ _ hcd]

theorem get_adopt_child (hd : F.parent d = none) (hcd : c ≠ d) (hcontains : F.contains d = true) :
    (F.adopt c d).get d = { F.get d with parent := some c } := by
  rw [adopt_of_root hd, setChildren, get_update_of_ne _ _ hcd.symm, setParent, get_update,
    if_pos ⟨rfl, hcontains⟩]

theorem get_adopt_of_ne (hd : F.parent d = none) (hmc : m ≠ c) (hmd : m ≠ d) :
    (F.adopt c d).get m = F.get m := by
  rw [adopt_of_root hd, setChildren, get_update_of_ne _ _ hmc, setParent, get_update_of_ne _ _ hmd]

structure Keeps (F G : Forest) : Prop where
  contains : ∀ m, F.contains m = true → G.contains m = true
  get : ∀ m, F.contains m = true → G.get m = F.get m

namespace Keeps

theorem refl (F : Forest) : F.Keeps F := ⟨fun _ h => h, fun _ _ => rfl⟩

theorem trans (h : F.Keeps G) (h' : G.Keeps H) : F.Keeps H where
  contains m hm := h'.contains m (h.contains m hm)
  get m hm := (h'.get m (h.contains m hm)).trans (h.get m hm)

theorem create (F : Forest) (name : String) (v : Value) : F.Keeps (F.create name v).2 where
  contains m hm := (contains_create F name v m).2 (.inr hm)
  get m hm := by
    rw [get_create, if_neg]
    rintro rfl
    exact not_contains_create F name v hm

theorem adopt (h : F.Keeps G) (hroot : G.parent d = none) (hc : ¬ F.contains c = true)
    (hd : ¬ F.contains d = true) : F.Keeps (G.adopt c d) where
  contains m hm := (contains_adopt G c d m).trans (h.contains m hm)
  get m hm := by
    have hmc : m ≠ c := fun he => hc (he ▸ hm)
    have hmd : m ≠ d := fun he => hd (he ▸ hm)
    rw [get_adopt_of_ne hroot hmc hmd, h.get m hm]

end Keeps

def cloneOf (F : Forest) (n m : NodeId) : Node :=
  { name := F.name m
    value := F.value m
    children := (F.children m).filterMap (F.copied n)
    parent := (F.parent m).bind (F.copied n) }

/-- The nodes `done` have been copied, the first ones of a subtree in document order. -/
structure Clones (F : Forest) (n : NodeId) (done : List NodeId) (s : Cloning) : Prop where
  size_eq : s.forest.size = F.size + done.length
  keeps : F.Keeps s.forest
  sources_eq : s.copies.map Prod.fst = done
  copied_eq : ∀ p ∈ s.copies, F.copied n p.1 = some p.2

/-- After the nodes `done`, the node `m` and the subtrees of its children `cs` have been copied. -/
structure Cloned (F : Forest) (n : NodeId) (done : List NodeId) (m : NodeId) (cs : List NodeId)
    (s : Cloning) (c : NodeId) (s' : Cloning) : Prop where
  clones : Clones F n (done ++ m :: cs.flatMap F.preorder) s'
  keeps : s.forest.Keeps s'.forest
  copied_eq : F.copied n m = some c
  fresh : ¬ s.forest.contains c = true
  contains : s'.forest.contains c = true
  get_root : s'.forest.get c =
    { F.cloneOf n m with children := cs.filterMap (F.copied n), parent := none }
  get_below : ∀ x ∈ cs.flatMap F.preorder, ∀ d, F.copied n x = some d →
    s'.forest.contains d = true ∧ s'.forest.get d = F.cloneOf n x

theorem Clones.adopt (h : Clones F n done s) (hroot : s.forest.parent d = none)
    (hc : F.copied n m = some c) (hd : F.copied n p = some d) :
    Clones F n done (.adopt c (d, s)) where
  size_eq := (size_adopt_of_root hroot c).trans h.size_eq
  keeps := h.keeps.adopt hroot (not_contains_of_copied hc) (not_contains_of_copied hd)
  sources_eq := h.sources_eq
  copied_eq := h.copied_eq

section WellFormed
variable (hF : F.WellFormed)
include hF

theorem not_mem_below (m : NodeId) : m ∉ (F.children m).flatMap F.preorder := by
  have hnodup := nodup_preorder hF m
  rw [preorder_eq hF] at hnodup
  exact (List.nodup_cons.1 hnodup).1

theorem copied_of_split (h : F.preorder n = done ++ m :: rest) :
    F.copied n m = some ⟨F.size + done.length⟩ := by
  refine copied_eq_some_iff.2 ⟨done.length, List.idxOf?_eq_some_iff.2 ?_, rfl⟩
  have hnodup := nodup_preorder hF n
  rw [h] at hnodup ⊢
  refine ⟨by simp, by simp, fun j hj he => ?_⟩
  rw [List.getElem_append_left hj] at he
  exact List.disjoint_of_nodup_append hnodup (List.getElem_mem hj) (he ▸ List.mem_cons_self)

theorem cloned_create (h : Clones F n done s) (hsplit : F.preorder n = done ++ m :: rest)
    (hm : F.contains m = true) :
    let created := s.forest.create (s.forest.name m) (s.forest.value m)
    Cloned F n done m [] s created.1 ⟨created.2, s.copies ++ [(m, created.1)]⟩ := by
  intro created
  have hcopied : F.copied n m = some created.1 := by
    rw [copied_of_split hF hsplit, ← h.size_eq]
    rfl
  have hkeeps : s.forest.Keeps created.2 := .create ..
  refine ⟨⟨?_, h.keeps.trans hkeeps, ?_, fun p hp => ?_⟩, hkeeps, hcopied,
    not_contains_create _ _ _, (contains_create _ _ _ _).2 (.inl rfl), ?_, nofun⟩
  · rw [size_create, h.size_eq]
    simp [Nat.add_assoc]
  · rw [List.map_append, h.sources_eq]
    rfl
  · rcases List.mem_append.1 hp with hp | hp
    · exact h.copied_eq p hp
    · rw [List.mem_singleton.1 hp]
      exact hcopied
  · rw [get_create, if_pos rfl, name, value, h.keeps.get m hm]
    rfl

section Child

variable (h : Cloned F n done m cs s c s') (hchildren : F.children m = cs ++ p :: cs')
variable (hp : Cloned F n (done ++ m :: cs.flatMap F.preorder) p (F.children p) s' d s'')
include h hchildren hp

theorem Cloned.get_below_concat {x e : NodeId} (hx : x ∈ (cs ++ [p]).flatMap F.preorder)
    (he : F.copied n x = some e) :
    (s''.forest.adopt c d).contains e = true ∧ (s''.forest.adopt c d).get e = F.cloneOf n x := by
  have hparent : F.parent p = some m := hF.parent_of_mem (by simp [hchildren])
  have hroot : s''.forest.parent d = none := congrArg Node.parent hp.get_root
  have hec : e ≠ c := by
    rintro rfl
    obtain rfl := copied_injective he h.copied_eq
    refine not_mem_below hF x ?_
    rw [hchildren, List.append_cons, List.flatMap_append]
    exact List.mem_append_left _ hx
  rw [List.flatMap_append, List.flatMap_singleton, List.mem_append, preorder_eq hF p,
    List.mem_cons] at hx
  rw [contains_adopt]
  -- below an earlier child, the child itself, or below it
  rcases hx with hx | rfl | hx
  · obtain ⟨hcontains, hget⟩ := h.get_below x hx e he
    have hed : e ≠ d := fun hed => hp.fresh (hed ▸ hcontains)
    refine ⟨hp.keeps.contains e hcontains, ?_⟩
    rw [get_adopt_of_ne hroot hec hed, hp.keeps.get e hcontains, hget]
  · obtain rfl := Option.some.inj (he.symm.trans hp.copied_eq)
    refine ⟨hp.contains, ?_⟩
    rw [get_adopt_child hroot hec.symm hp.contains, hp.get_root, cloneOf, hparent,
      Option.bind_some, h.copied_eq]
  · obtain ⟨hcontains, hget⟩ := hp.get_below x hx e he
    have hed : e ≠ d := by
      rintro rfl
      exact not_mem_below hF p (copied_injective he hp.copied_eq ▸ hx)
    exact ⟨hcontains, (get_adopt_of_ne hroot hec hed).trans hget⟩

theorem Cloned.concat :
    Cloned F n done m (cs ++ [p]) s c (.adopt c (d, s'')) where
  clones := by
    have hclones := hp.clones.adopt (congrArg Node.parent hp.get_root) h.copied_eq hp.copied_eq
    rwa [List.append_assoc, List.cons_append, ← preorder_eq hF p,
      ← List.flatMap_singleton (F.preorder ·) p, ← List.flatMap_append] at hclones
  keeps := (h.keeps.trans hp.keeps).adopt (congrArg Node.parent hp.get_root) h.fresh fun hd =>
    hp.fresh (h.keeps.contains d hd)
  copied_eq := h.copied_eq
  fresh := h.fresh
  contains := (contains_adopt _ _ _ _).trans (hp.keeps.contains c h.contains)
  get_root := by
    have hcd : c ≠ d := fun he => hp.fresh (he ▸ h.contains)
    have hget : s''.forest.get c = s'.forest.get c := hp.keeps.get c h.contains
    show (s''.forest.adopt c d).get c = _
    rw [get_adopt_self (congrArg Node.parent hp.get_root) hcd (hp.keeps.contains c h.contains),
      children, hget, h.get_root, List.filterMap_append]
    simp [hp.copied_eq]
  get_below x hx e he := h.get_below_concat hF hchildren hp hx he

end Child

/-- The children are copied one after the other, `cs` already and `cs'` not yet. -/
theorem Cloned.foldl {clone : NodeId → Cloning → NodeId × Cloning}
    (hclone : ∀ p ∈ F.children m, ∀ done rest s, Clones F n done s →
      F.preorder n = done ++ F.preorder p ++ rest →
      Cloned F n done p (F.children p) s (clone p s).1 (clone p s).2)
    (hsplit : F.preorder n = done ++ F.preorder m ++ rest) (hchildren : F.children m = cs ++ cs')
    (h : Cloned F n done m cs s c s') :
    Cloned F n done m (F.children m) s c
      (cs'.foldl (fun s p => .adopt c (clone p s)) s') := by
  induction cs' generalizing cs s' with
  | nil =>
    rw [List.append_nil] at hchildren
    rw [hchildren]
    exact h
  | cons p cs' ih =>
    have hmem : p ∈ F.children m := by simp [hchildren]
    have hp := hclone p hmem _ (cs'.flatMap F.preorder ++ rest) s' h.clones (by
      rw [hsplit, preorder_eq hF m, hchildren]
      simp)
    refine ih ?_ (h.concat hF hchildren hp)
    rw [hchildren, List.append_assoc, List.singleton_append]

/-- The first pass copies a subtree of which nothing has been copied yet. -/
theorem cloned_cloneStructure {fuel : Nat} (hm : F.contains m = true)
    (hfuel : F.size < fuel + (F.lineage m).length) (hs : Clones F n done s)
    (hsplit : F.preorder n = done ++ F.preorder m ++ rest) :
    Cloned F n done m (F.children m) s (cloneStructure fuel m s).1 (cloneStructure fuel m s).2 := by
  -- each level of the tree takes one off the fuel, and the lineage is longer by one
  induction fuel generalizing m done rest s with
  | zero =>
    have := length_lineage_le hF hm
    omega
  | succ fuel ih =>
    have hchildren : s.forest.children m = F.children m :=
      congrArg Node.children (hs.keeps.get m hm)
    have hnext : F.preorder n = done ++ m :: ((F.children m).flatMap F.preorder ++ rest) := by
      rw [hsplit, preorder_eq hF m, List.append_assoc, List.cons_append]
    rw [cloneStructure, hchildren]
    refine (cloned_create hF hs hnext hm).foldl hF (fun p hp done rest s hs hsplit => ?_) hsplit rfl
    refine ih (hF.contains_child hp) ?_ hs hsplit
    rw [lineage_of_parent hF (hF.parent_of_mem hp), List.length_cons]
    omega

end WellFormed

theorem Clones.lookup_eq (h : Clones F n (F.preorder n) s) (m : NodeId) :
    s.copies.lookup m = F.copied n m := by
  cases hl : s.copies.lookup m with
  | some c =>
    obtain ⟨l, l', hcopies, -⟩ := List.lookup_eq_some_iff.1 hl
    have hmem : (m, c) ∈ s.copies := by simp [hcopies]
    exact (h.copied_eq _ hmem).symm
  | none =>
    refine (Option.not_isSome_iff_eq_none.1 fun hm => ?_).symm
    rw [isSome_copied, ← h.sources_eq] at hm
    obtain ⟨p, hp, rfl⟩ := List.mem_map.1 hm
    simpa using List.lookup_eq_none_iff.1 hl p hp

/-- What the second pass goes through: copies that still have the values of their originals. -/
structure Pending (F : Forest) (n : NodeId) (l : List (NodeId × NodeId)) (G : Forest) : Prop where
  keeps : F.Keeps G
  known : ∀ q ∈ l, F.contains q.1 = true ∧ G.contains q.2 = true
  copied_eq : ∀ q ∈ l, F.copied n q.1 = some q.2
  nodup : (l.map Prod.snd).Nodup
  value_eq : ∀ q ∈ l, G.value q.2 = F.value q.1

/-- What the second pass makes of them. -/
structure Redirected (F : Forest) (n : NodeId) (l : List (NodeId × NodeId)) (G H : Forest) :
    Prop where
  size_eq : H.size = G.size
  get_copy : ∀ q ∈ l, H.get q.2 =
    { G.get q.2 with value := copyValue F.size (F.preorder n) (F.value q.1) }
  get_other : ∀ m, m ∉ l.map Prod.snd → H.get m = G.get m

section Redirect

variable {copies l : List (NodeId × NodeId)} {q : NodeId × NodeId}
variable (hlookup : ∀ m, copies.lookup m = F.copied n m)

include hlookup in
theorem Pending.redirect_eq (h : Pending F n (q :: l) G) : redirect copies G q =
    G.setValue q.2 (copyValue F.size (F.preorder n) (F.value q.1)) := by
  have hq : q ∈ q :: l := List.mem_cons_self
  have hvalue : G.value q.1 = F.value q.1 :=
    congrArg Node.value (h.keeps.get q.1 (h.known q hq).1)
  have hsame : G.setValue q.2 (F.value q.1) = G := by
    refine update_eq_self ?_
    rw [← h.value_eq q hq]
    rfl
  rw [redirect, hvalue]
  cases hv : F.value q.1 with
  | node target =>
    dsimp only
    rw [hlookup, copyValue, ← copied]
    cases F.copied n target with
    | some t => rfl
    | none =>
      rw [hv] at hsame
      exact hsame.symm
  | _ =>
    rw [hv] at hsame
    exact hsame.symm

theorem Pending.setValue (h : Pending F n (q :: l) G) (v : Value) :
    Pending F n l (G.setValue q.2 v) := by
  have hq : q ∈ q :: l := List.mem_cons_self
  obtain ⟨hfresh, hnodup⟩ := List.nodup_cons.1 h.nodup
  refine ⟨⟨fun m hm => ?_, fun m hm => ?_⟩, fun p hp => ?_, fun p hp => ?_, hnodup, fun p hp => ?_⟩
  · rw [contains_setValue, h.keeps.contains m hm]
  · have hne : m ≠ q.2 := fun he => not_contains_of_copied (h.copied_eq q hq) (he ▸ hm)
    rw [Forest.setValue, get_update_of_ne _ _ hne, h.keeps.get m hm]
  · rw [contains_setValue]
    exact h.known p (List.mem_cons_of_mem q hp)
  · exact h.copied_eq p (List.mem_cons_of_mem q hp)
  · have hne : p.2 ≠ q.2 := fun he => hfresh (he ▸ List.mem_map_of_mem hp)
    rw [value, Forest.setValue, get_update_of_ne _ _ hne]
    exact h.value_eq p (List.mem_cons_of_mem q hp)

include hlookup in
theorem Pending.redirected (h : Pending F n l G) :
    Redirected F n l G (l.foldl (redirect copies) G) := by
  -- a copy that has been redirected is none of those that are still pending
  induction l generalizing G with
  | nil => exact ⟨rfl, nofun, fun _ _ => rfl⟩
  | cons q l ih =>
    obtain ⟨hfresh, -⟩ := List.nodup_cons.1 h.nodup
    rw [List.foldl_cons, h.redirect_eq hlookup]
    obtain ⟨hsize, hcopy, hother⟩ := ih (h.setValue _)
    refine ⟨hsize.trans (size_update ..), fun p hp => ?_, fun m hm => ?_⟩
    · rcases List.mem_cons.1 hp with rfl | hp
      · rw [hother _ hfresh, Forest.setValue, get_update, if_pos ⟨rfl, (h.known p hp).2⟩]
      · have hne : p.2 ≠ q.2 := fun he => hfresh (he ▸ List.mem_map_of_mem hp)
        rw [hcopy p hp, Forest.setValue, get_update_of_ne _ _ hne]
    · rw [List.map_cons, List.mem_cons, not_or] at hm
      rw [hother m hm.2, Forest.setValue, get_update_of_ne _ _ hm.1]

end Redirect

section WellFormed
variable (hF : F.WellFormed)
include hF

theorem Cloned.get_copy (h : Cloned F n done n (F.children n) s c s')
    (hd : F.copied n m = some d) : s'.forest.contains d = true ∧ s'.forest.get d =
      { F.cloneOf n m with parent := if m = n then none else (F.parent m).bind (F.copied n) } := by
  have hm := mem_preorder_of_copied hd
  rw [preorder_eq hF, List.mem_cons] at hm
  rcases hm with rfl | hm
  · obtain rfl := Option.some.inj (hd.symm.trans h.copied_eq)
    rw [if_pos rfl]
    exact ⟨h.contains, h.get_root⟩
  · have hne : m ≠ n := fun he => not_mem_below hF n (he ▸ hm)
    rw [if_neg hne]
    exact h.get_below m hm d hd

theorem Cloned.clones_preorder (h : Cloned F n [] n (F.children n) s c s') :
    Clones F n (F.preorder n) s' := by
  rw [preorder_eq hF]
  exact h.clones

theorem Cloned.pending (h : Cloned F n [] n (F.children n) s c s') (hn : F.contains n = true) :
    Pending F n s'.copies s'.forest where
  keeps := h.clones.keeps
  known q hq := by
    have hcopied := h.clones.copied_eq q hq
    have hwithin := (mem_preorder hF).1 (mem_preorder_of_copied hcopied)
    exact ⟨contains_of_within hn hwithin, (h.get_copy hF hcopied).1⟩
  copied_eq := h.clones.copied_eq
  nodup := by
    have hnodup : (s'.copies.map Prod.fst).Nodup := by
      rw [(h.clones_preorder hF).sources_eq]
      exact nodup_preorder hF n
    refine (List.Nodup.of_map _ hnodup).map_on fun q hq p hp he => ?_
    have hcopied := h.clones.copied_eq q hq
    rw [he] at hcopied
    exact List.inj_on_of_nodup_map hnodup hq hp
      (copied_injective hcopied (h.clones.copied_eq p hp))
  value_eq q hq := by
    rw [value, (h.get_copy hF (h.clones.copied_eq q hq)).2]
    rfl

/-- The two passes make the copy of a subtree. -/
theorem clone_eq_copy (hn : F.contains n = true) : F.clone n = F.copy n := by
  have hclones : Clones F n [] ⟨F, []⟩ := ⟨rfl, .refl F, rfl, nofun⟩
  have h : Cloned F n [] n (F.children n) ⟨F, []⟩ (cloneStructure (F.size + 1) n ⟨F, []⟩).1
      (cloneStructure (F.size + 1) n ⟨F, []⟩).2 :=
    cloned_cloneStructure hF hn (by omega) hclones (List.append_nil _).symm
  unfold clone
  generalize cloneStructure (F.size + 1) n ⟨F, []⟩ = r at h ⊢
  obtain ⟨c, s⟩ := r
  have hclones := h.clones_preorder hF
  have hredirected := (h.pending hF hn).redirected hclones.lookup_eq
  refine Prod.ext (Option.some.inj (h.copied_eq.symm.trans (copied_self F n))) ?_
  refine eq_of_get ?_ fun m hm => ?_
  · rw [hredirected.size_eq, hclones.size_eq, size_copy]
  rcases (contains_copy hF).1 hm with hm | ⟨x, hx⟩
  · rw [hredirected.get_other m, hclones.keeps.get m hm, get_copy_of_contains hm]
    intro hcopy
    obtain ⟨q, hq, rfl⟩ := List.mem_map.1 hcopy
    exact not_contains_of_copied (hclones.copied_eq q hq) hm
  · have hmem := mem_preorder_of_copied hx
    rw [← hclones.sources_eq] at hmem
    obtain ⟨q, hq, rfl⟩ := List.mem_map.1 hmem
    obtain rfl := Option.some.inj (hx.symm.trans (hclones.copied_eq q hq))
    rw [hredirected.get_copy q hq, (h.get_copy hF hx).2, get_copied hx]
    rfl

end WellFormed
end Forest
end TreeQuery
