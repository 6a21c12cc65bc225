import Mathlib.Data.List.Nodup
import Mathlib.Logic.Relation
import TreeQuery.Forest.Edit

namespace TreeQuery.Forest

variable {F : Forest} {n m p c : NodeId}

/-- `c` is a child of `p`, as its own link says. -/
def Under (F : Forest) (c p : NodeId) : Prop := F.parent c = some p

/-- `n` is `a` or somewhere below it. -/
def Within (F : Forest) (n a : NodeId) : Prop := Relation.ReflTransGen F.Under n a

/-- The forest is one of trees. -/
structure WellFormed (F : Forest) : Prop where
  parent_eq_some_iff : ∀ c p, F.parent c = some p ↔ c ∈ F.children p
  children_nodup : ∀ p, (F.children p).Nodup
  acyclic : ∀ n, ¬ Relation.TransGen F.Under n n

theorem contains_iff : F.contains n = true ↔ n.index < F.size := by
  simp [contains]

theorem get_of_not_contains (h : ¬ F.contains n = true) : F.get n = default := by
  rw [contains_iff, size] at h
  simp only [get, Array.getD_eq_getD_getElem?]
  rw [Array.getElem?_eq_none (by omega)]
  rfl

theorem contains_of_parent (h : F.parent c = some p) : F.contains c = true := by
  by_contra hc
  rw [parent, get_of_not_contains hc] at h
  simp [default] at h

theorem contains_of_mem_children (h : c ∈ F.children p) : F.contains p = true := by
  by_contra hp
  rw [children, get_of_not_contains hp] at h
  simp [default] at h

theorem parent_of_not_contains (h : ¬ F.contains n = true) : F.parent n = none := by
  rw [parent, get_of_not_contains h]
  rfl

theorem children_of_not_contains (h : ¬ F.contains n = true) : F.children n = [] := by
  rw [children, get_of_not_contains h]
  rfl

theorem eq_of_get {G : Forest} (hsize : G.size = F.size)
    (hget : ∀ m, F.contains m = true → G.get m = F.get m) : G = F := by
  obtain ⟨nodes⟩ := F
  obtain ⟨nodes'⟩ := G
  refine congrArg Forest.mk (Array.ext hsize fun i hi hi' => ?_)
  have hi := hget ⟨i⟩ (contains_iff.2 hi')
  simp only [get, Array.getD_eq_getD_getElem?] at hi
  rwa [Array.getElem?_eq_getElem, Array.getElem?_eq_getElem] at hi

theorem get_update (F : Forest) (n m : NodeId) (f : Node → Node) :
    (F.update n f).get m = if m = n ∧ F.contains n = true then f (F.get n) else F.get m := by
  by_cases h : m = n
  · subst h
    by_cases hc : F.contains m = true
    · rw [if_pos ⟨rfl, hc⟩, get_update_self F m f (contains_iff.1 hc)]
    · rw [if_neg (fun h => hc h.2), get_of_not_contains hc]
      exact get_of_not_contains (by rwa [contains_iff, size_update, ← contains_iff])
  · rw [if_neg (fun hn => h hn.1), get_update_of_ne F f h]

theorem field_update {α : Type} (g : Node → α) (F : Forest) (n m : NodeId) {f : Node → Node}
    (hf : ∀ node, g (f node) = g node) : g ((F.update n f).get m) = g (F.get m) := by
  rw [get_update]
  split
  · next h => rw [hf, h.1]
  · rfl

theorem update_update (F : Forest) (n : NodeId) (f g : Node → Node) :
    (F.update n f).update n g = F.update n (g ∘ f) := by
  refine congrArg Forest.mk (Array.ext ?_ fun i hi hi' => ?_)
  · simp [update]
  · simp only [update, Array.getElem_modify]
    split <;> rfl

theorem update_eq_self {f : Node → Node} (h : f (F.get n) = F.get n) : F.update n f = F := by
  obtain ⟨nodes⟩ := F
  refine congrArg Forest.mk (Array.ext (Array.size_modify ..) fun i hi hi' => ?_)
  rw [Array.getElem_modify]
  split
  · next heq =>
    subst heq
    simpa [get, Array.getD_eq_getD_getElem?, hi'] using h
  · rfl

@[simp] theorem contains_update (F : Forest) (n m : NodeId) (f : Node → Node) :
    (F.update n f).contains m = F.contains m := by
  simp [contains]

@[simp] theorem parent_setName (F : Forest) (n m : NodeId) (s : String) :
    (F.setName n s).parent m = F.parent m :=
  field_update Node.parent F n m fun _ => rfl

@[simp] theorem children_setName (F : Forest) (n m : NodeId) (s : String) :
    (F.setName n s).children m = F.children m :=
  field_update Node.children F n m fun _ => rfl

@[simp] theorem parent_setValue (F : Forest) (n m : NodeId) (v : Value) :
    (F.setValue n v).parent m = F.parent m :=
  field_update Node.parent F n m fun _ => rfl

@[simp] theorem children_setValue (F : Forest) (n m : NodeId) (v : Value) :
    (F.setValue n v).children m = F.children m :=
  field_update Node.children F n m fun _ => rfl

@[simp] theorem parent_setChildren (F : Forest) (n m : NodeId) (cs : List NodeId) :
    (F.setChildren n cs).parent m = F.parent m :=
  field_update Node.parent F n m fun _ => rfl

@[simp] theorem children_setParent (F : Forest) (n m : NodeId) (q : Option NodeId) :
    (F.setParent n q).children m = F.children m :=
  field_update Node.children F n m fun _ => rfl

theorem parent_setParent (F : Forest) (n m : NodeId) (q : Option NodeId)
    (h : F.contains n = true) :
    (F.setParent n q).parent m = if m = n then q else F.parent m := by
  unfold setParent parent
  rw [get_update]
  by_cases hm : m = n <;> simp [hm, h]

theorem parent_setParent_none (F : Forest) (n m : NodeId) :
    (F.setParent n none).parent m = if m = n then none else F.parent m := by
  by_cases h : F.contains n = true
  · exact parent_setParent F n m none h
  · unfold setParent parent
    rw [get_update, if_neg (fun hm => h hm.2)]
    split
    · next hm => rw [hm]; exact parent_of_not_contains h
    · rfl

theorem children_setChildren (F : Forest) (n m : NodeId) (cs : List NodeId)
    (h : F.contains n = true) :
    (F.setChildren n cs).children m = if m = n then cs else F.children m := by
  unfold setChildren children
  rw [get_update]
  by_cases hm : m = n <;> simp [hm, h]

@[simp] theorem contains_setName (F : Forest) (n m : NodeId) (s : String) :
    (F.setName n s).contains m = F.contains m :=
  contains_update F n m _

@[simp] theorem contains_setValue (F : Forest) (n m : NodeId) (v : Value) :
    (F.setValue n v).contains m = F.contains m :=
  contains_update F n m _

@[simp] theorem contains_setChildren (F : Forest) (n m : NodeId) (cs : List NodeId) :
    (F.setChildren n cs).contains m = F.contains m :=
  contains_update F n m _

@[simp] theorem contains_setParent (F : Forest) (n m : NodeId) (q : Option NodeId) :
    (F.setParent n q).contains m = F.contains m :=
  contains_update F n m _

theorem get_create (F : Forest) (name : String) (v : Value) (m : NodeId) :
    (F.create name v).2.get m =
      if m = (F.create name v).1 then { name, value := v } else F.get m := by
  obtain ⟨i⟩ := m
  simp only [create, get, size, Array.getD_eq_getD_getElem?, Array.getElem?_push, NodeId.mk.injEq]
  split <;> rfl

theorem size_create (F : Forest) (name : String) (v : Value) :
    (F.create name v).2.size = F.size + 1 := by
  simp [create, size]

theorem not_contains_create (F : Forest) (name : String) (v : Value) :
    ¬ F.contains (F.create name v).1 = true := by
  simp [create, contains]

theorem contains_create (F : Forest) (name : String) (v : Value) (m : NodeId) :
    (F.create name v).2.contains m = true ↔ m = (F.create name v).1 ∨ F.contains m = true := by
  obtain ⟨i⟩ := m
  simp only [contains_iff, size_create]
  simp only [create, NodeId.mk.injEq]
  omega

/-- A new node has the links that an unknown one had before: none. -/
@[simp] theorem parent_create (F : Forest) (name : String) (v : Value) (m : NodeId) :
    (F.create name v).2.parent m = F.parent m := by
  rw [parent, get_create]
  split
  · next h => rw [h, parent_of_not_contains (not_contains_create F name v)]
  · rfl

@[simp] theorem children_create (F : Forest) (name : String) (v : Value) (m : NodeId) :
    (F.create name v).2.children m = F.children m := by
  rw [children, get_create]
  split
  · next h => rw [h, children_of_not_contains (not_contains_create F name v)]
  · rfl

namespace WellFormed

variable (hF : F.WellFormed)
include hF

theorem mem_children (h : F.parent c = some p) : c ∈ F.children p :=
  (hF.parent_eq_some_iff c p).1 h

theorem parent_of_mem (h : c ∈ F.children p) : F.parent c = some p :=
  (hF.parent_eq_some_iff c p).2 h

theorem contains_parent (h : F.parent c = some p) : F.contains p = true :=
  contains_of_mem_children (hF.mem_children h)

theorem contains_child (h : c ∈ F.children p) : F.contains c = true :=
  contains_of_parent (hF.parent_of_mem h)

/-- Whether a forest is one of trees depends on the links alone. -/
theorem of_links {G : Forest} (hp : ∀ m, G.parent m = F.parent m)
    (hc : ∀ m, G.children m = F.children m) : G.WellFormed where
  parent_eq_some_iff c p := by rw [hp, hc]; exact hF.parent_eq_some_iff c p
  children_nodup p := by rw [hc]; exact hF.children_nodup p
  acyclic n h :=
    hF.acyclic n (Relation.TransGen.mono (fun a b hab => (hp a).symm.trans hab) _ _ h)

end WellFormed

theorem within_or_within (h : F.Within n m) (h' : F.Within n p) : F.Within m p ∨ F.Within p m := by
  refine Relation.ReflTransGen.total_of_right_unique (fun a b c hb hc => ?_) h h'
  exact Option.some.inj (hb.symm.trans hc)

theorem wellFormed_empty : WellFormed {} where
  parent_eq_some_iff c p := by simp [parent, children, get, default]
  children_nodup p := by simp [children, get, default]
  acyclic n h := by
    obtain ⟨m, hm, -⟩ := Relation.TransGen.head'_iff.1 h
    simp [Under, parent, get, default] at hm

theorem WellFormed.create (hF : F.WellFormed) (name : String) (v : Value) :
    (F.create name v).2.WellFormed :=
  hF.of_links (parent_create F name v) (children_create F name v)

end TreeQuery.Forest
