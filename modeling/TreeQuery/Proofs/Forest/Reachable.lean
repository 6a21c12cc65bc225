import Mathlib.Order.WellFounded
import TreeQuery.Evaluate.Match
import TreeQuery.Proofs.Forest.Replace

namespace TreeQuery

/-- What can be done to a forest. -/
inductive Edit
  | create (name : String) (value : Value)
  | createWith (name : String) (value : Value) (children : List NodeId)
  | add (parent child : NodeId)
  | insert (parent : NodeId) (position : Nat) (child : NodeId)
  | untie (n : NodeId)
  | untieChildren (n : NodeId)
  | setName (n : NodeId) (name : String)
  | setValue (n : NodeId) (value : Value)
  | copy (n : NodeId)
  | write (E : Evaluator) (e : Entity) (value : Value)

namespace Edit

/-- The nodes that an edit changes or moves. Values may hold any others. -/
def nodes : Edit → List NodeId
  | create _ _ => []
  | createWith _ _ children => children
  | add p c => [p, c]
  | insert p _ c => [p, c]
  | untie n => [n]
  | untieChildren n => [n]
  | setName n _ => [n]
  | setValue n _ => [n]
  | copy n => [n]
  | write _ e _ => [e.node]

/-- What an attempt leaves: the new forest, or the old one if it fails. Whatever can fail comes
before the first change: moves are checked at once, values are converted first, and a replacement
cannot fail (`Forest.exists_replace`). -/
def settle {ε : Type} (F : Forest) : Except ε Forest → Forest
  | .ok G => G
  | .error _ => F

def run (F : Forest) : Edit → Forest
  | create name v => (F.create name v).2
  | createWith name v children => (F.createWith name v children).2
  | add p c => settle F (F.add p c)
  | insert p i c => settle F (F.insert p i c)
  | untie n => (F.untie n).2
  | untieChildren n => (F.untieChildren n).2
  | setName n name => F.setName n name
  | setValue n v => F.setValue n v
  | copy n => (F.copy n).2
  | write E e v => settle F (e.set E F v)

end Edit

namespace Forest

variable {F G : Forest} {n m p c : NodeId}

/-- A forest that comes about by edits of nodes that there are. -/
inductive Reachable : Forest → Prop
  | empty : Reachable {}
  | edit {F : Forest} (e : Edit) (hF : Reachable F)
      (hn : ∀ n ∈ e.nodes, F.contains n = true) : Reachable (e.run F)

/-- Whether the edits of a run are all made with nodes that there are at that time. -/
def admits (F : Forest) : List Edit → Bool
  | [] => true
  | e :: rest => e.nodes.all F.contains && (e.run F).admits rest

theorem Reachable.foldl (hF : F.Reachable) {edits : List Edit} (h : F.admits edits = true) :
    (edits.foldl Edit.run F).Reachable := by
  induction edits generalizing F with
  | nil => exact hF
  | cons e rest ih =>
    rw [admits, Bool.and_eq_true, List.all_eq_true] at h
    exact ih (hF.edit e h.1) h.2

theorem WellFormed.settle {ε : Type} (hF : F.WellFormed) {r : Except ε Forest}
    (h : ∀ G, r = .ok G → G.WellFormed) : (Edit.settle F r).WellFormed := by
  cases r with
  | ok G => exact h G rfl
  | error e => exact hF

theorem WellFormed.set (hF : F.WellFormed) {E : Evaluator} {e : Entity} {v : Value}
    (hn : F.contains e.node = true) (h : e.set E F v = .ok G) : G.WellFormed := by
  have hname (s : String) : (F.setName e.node s).WellFormed :=
    hF.of_links (fun m => parent_setName F e.node m s) fun m => children_setName F e.node m s
  have hvalue (w : Value) : (F.setValue e.node w).WellFormed :=
    hF.of_links (fun m => parent_setValue F e.node m w) fun m => children_setValue F e.node m w
  -- only an entity that is a node changes links: it is taken out or replaced
  unfold Entity.set at h
  split at h
  · cases ht : E.textOf F v with
    | error err => rw [ht] at h; exact absurd h nofun
    | ok s => rw [ht] at h; exact Except.ok.inj h ▸ hname s
  · split at h
    · next typeName _ =>
      cases ht : E.convertTo F typeName v with
      | error err => rw [ht] at h; exact absurd h nofun
      | ok w => rw [ht] at h; exact Except.ok.inj h ▸ hvalue w
    · exact Except.ok.inj h ▸ hvalue v
  · cases ht : E.convertTo F "node" v with
    | error err => rw [ht] at h; exact absurd h nofun
    | ok w =>
      rw [ht] at h
      cases w with
      | null => exact Except.ok.inj h ▸ hF.untie e.node
      | node r =>
        obtain ⟨G', hG', hwf⟩ := exists_replace hF hn r
        simp only [bind, Except.bind, hG'] at h
        exact Except.ok.inj h ▸ hwf
      | _ => exact absurd h nofun
  · exact absurd h nofun
  · exact absurd h nofun

theorem WellFormed.run (hF : F.WellFormed) (e : Edit)
    (hn : ∀ n ∈ e.nodes, F.contains n = true) : (e.run F).WellFormed := by
  cases e with
  | create name v => exact hF.create name v
  | createWith name v cs => exact hF.createWith name v hn
  | add p c =>
    have hp := hn p (by simp [Edit.nodes])
    exact hF.settle fun G h => hF.attach (hn c (by simp [Edit.nodes])) hp h
  | insert p i c =>
    have hp := hn p (by simp [Edit.nodes])
    exact hF.settle fun G h => hF.attach (hn c (by simp [Edit.nodes])) hp h
  | untie n => exact hF.untie n
  | untieChildren n => exact hF.untieChildren n
  | setName n s => exact hF.of_links (parent_setName F n · s) (children_setName F n · s)
  | setValue n v => exact hF.of_links (parent_setValue F n · v) (children_setValue F n · v)
  | copy n => exact hF.copy n
  | write E e v => exact hF.settle fun G h => hF.set (hn e.node (by simp [Edit.nodes])) h

theorem Reachable.wellFormed (h : F.Reachable) : F.WellFormed := by
  induction h with
  | empty => exact wellFormed_empty
  | edit e _ hn ih => exact ih.run e hn

/-- After any run of edits the links of children and parents agree, no child is listed twice, and
no node is above itself. So no way up goes on for ever: each lineage, root and address is that of
the parent and one step more, and ends with a node without a parent. -/
theorem edits_keep_trees (h : F.Reachable) :
    (∀ c p, F.parent c = some p ↔ c ∈ F.children p) ∧
    (∀ p, (F.children p).Nodup) ∧
    (∀ n, ¬ Relation.TransGen (fun c p => F.parent c = some p) n n) ∧
    (∀ walk : Nat → NodeId, ∃ i, F.parent (walk i) ≠ some (walk (i + 1))) ∧
    (∀ n, F.parent (F.root n) = none ∧ F.root n ∈ F.lineage n) ∧
    (∀ n, F.parent n = none → F.lineage n = [n] ∧ F.root n = n ∧ (F.path n).indices = []) ∧
    ∀ n p, F.parent n = some p → F.lineage n = n :: F.lineage p ∧ F.root n = F.root p ∧
      ∃ i, (F.children p)[i]? = some n ∧ (F.path n).indices = (F.path p).indices ++ [i] := by
  have hF := h.wellFormed
  refine ⟨hF.parent_eq_some_iff, hF.children_nodup, hF.acyclic, fun walk => ?_, fun n => ?_,
    fun n hn => ?_, fun n p hp => ?_⟩
  -- a walk that went up for ever would have no highest node
  · obtain ⟨_, ⟨i, rfl⟩, hmin⟩ :=
      (wellFounded_above hF).has_min (Set.range walk) ⟨walk 0, 0, rfl⟩
    exact ⟨i, hmin _ ⟨i + 1, rfl⟩⟩
  · exact ⟨parent_root hF n, (mem_lineage hF).2 (within_root hF n)⟩
  · refine ⟨lineage_of_root hn, root_of_root hn, ?_⟩
    rw [path_of_root hn]
    rfl
  · obtain ⟨i, hi, hget⟩ := position?_of_parent hF hp
    exact ⟨lineage_of_parent hF hp, root_of_parent hF hp, i, hget, path_of_parent hF hp hi⟩

/-- A child whose parent has first been put below it and taken out again, and a copy of both. -/
theorem edits_keep_trees_moved :
    let F := [Edit.create "a" .null, .create "b" (.node ⟨0⟩), .add ⟨1⟩ ⟨0⟩, .add ⟨0⟩ ⟨1⟩,
      .untie ⟨0⟩, .insert ⟨0⟩ 0 ⟨1⟩, .copy ⟨0⟩, .write {} ⟨⟨1⟩, .node, none, 1⟩ (.node ⟨0⟩)].foldl
        Edit.run {}
    F.Reachable ∧ F.children ⟨0⟩ = [⟨4⟩] ∧ F.parent (F.root ⟨5⟩) = none := by
  intro F
  have hF : F.Reachable := Reachable.empty.foldl (by decide +kernel)
  exact ⟨hF, by decide +kernel, ((edits_keep_trees hF).2.2.2.2.1 ⟨5⟩).1⟩

end Forest
end TreeQuery
