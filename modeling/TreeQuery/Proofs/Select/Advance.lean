import Mathlib.Order.MinMax
import TreeQuery.Proofs.Select.Remaining

namespace TreeQuery

def Event.depth : Event → Nat
  | done => 0
  | idle c => c.depth
  | yield _ c => c.depth

namespace Event

variable {e : Event} {d : Nat}

theorem depth_map {f : Cursor → Cursor} (hf : ∀ s, (f s).depth = s.depth) (e : Event) :
    (e.map f).depth = e.depth := by
  cases e with
  | done => rfl
  | idle s => exact hf s
  | yield n s => exact hf s

theorem depth_ite {c : Prop} [Decidable c] {e' : Event} (h : e.depth ≤ d) (h' : e'.depth ≤ d) :
    (if c then e else e').depth ≤ d := by
  split
  · exact h
  · exact h'

theorem depth_cases {last : Event} {f : Cursor → Event} {g : NodeId → Cursor → Event}
    (hlast : last.depth ≤ d) (hf : ∀ s, s.depth ≤ e.depth → (f s).depth ≤ d)
    (hg : ∀ n s, s.depth ≤ e.depth → (g n s).depth ≤ d) :
    (match e with
      | .done => last
      | .idle s => f s
      | .yield n s => g n s).depth ≤ d := by
  cases e with
  | done => exact hlast
  | idle s => exact hf s le_rfl
  | yield n s => exact hg n s le_rfl

theorem depth_pass {f : Cursor → Cursor} {g : NodeId → Cursor → Event}
    (hf : ∀ s, s.depth ≤ e.depth → (f s).depth ≤ d)
    (hg : ∀ n s, s.depth ≤ e.depth → (g n s).depth ≤ d) :
    (match e with
      | .yield n s => g n s
      | e => e.map f).depth ≤ d := by
  cases e with
  | done => exact Nat.zero_le d
  | idle s => exact hf s le_rfl
  | yield n s => exact hg n s le_rfl

end Event

namespace Cursor

variable {F : Forest} {read : Cursor → List NodeId} {source left right : Cursor}

theorem depth_advanceWith_le (F : Forest) (read : Cursor → List NodeId) (c : Cursor) :
    (c.advanceWith F read).depth ≤ c.depth := by
  induction c with
  | list rest => cases rest <;> exact le_rfl
  | children pending source ih =>
    cases pending with
    | cons n pending => exact le_rfl
    | nil => exact Event.depth_pass (fun s h => h.trans ih) fun n s h => h.trans ih
  | descendants stack source ih =>
    cases stack with
    | cons n stack => exact le_rfl
    | nil => exact Event.depth_pass (fun s h => h.trans ih) fun n s h => h.trans ih
  | step s source ih =>
    refine Event.depth_pass (fun t h => h.trans ih) fun n t h => ?_
    cases s.step? F n <;> exact h.trans ih
  | skip count source ih =>
    cases count with
    | zero => exact (Event.depth_map (f := skip 0) (fun _ => rfl) _).trans_le ih
    | succ count => exact Event.depth_pass (fun s h => h.trans ih) fun n s h => h.trans ih
  | take count source ih =>
    cases count with
    | zero => exact Nat.zero_le _
    | succ count => exact Event.depth_pass (fun s h => h.trans ih) fun n s h => h.trans ih
  | everyNth n i source ih | unseen seen source ih | amongst keep known source ih =>
    refine Event.depth_pass (fun s h => h.trans ih) fun n s h => ?_
    exact Event.depth_ite (h.trans ih) (h.trans ih)
  | union seen left right ihl ihr =>
    refine Event.depth_cases (le_max_right _ _) (fun s h => ?_) fun n s h => ?_
    · exact max_le_max (h.trans ihl) le_rfl
    · exact max_le_max (h.trans ihl) le_rfl
  | members keep left right ihl ihr =>
    refine Event.depth_pass (fun s h => max_le_max (h.trans ihl) le_rfl) fun n s h => ?_
    have hs : s.depth ≤ max left.depth (right.depth + 1) := (h.trans ihl).trans (le_max_left _ _)
    exact Event.depth_ite hs hs
  | difference left right ihl ihr =>
    refine Event.depth_cases (Nat.zero_le _) (fun s h => max_le_max (h.trans ihl) le_rfl)
      fun n s h => ?_
    have hs : s.depth ≤ max left.depth (right.depth + 1) := (h.trans ihl).trans (le_max_left _ _)
    exact Event.depth_ite hs hs
  | differenceFrom seen known left ih =>
    refine Event.depth_cases (Nat.zero_le _) (fun s h => h.trans ih) fun n s h => ?_
    exact Event.depth_ite (h.trans ih) (h.trans ih)
  | matching n position accepts =>
    rw [advanceWith]
    cases F.child? n position with
    | none => exact le_rfl
    | some c => exact Event.depth_ite le_rfl le_rfl

/-- What a step does depends on the nodes of less deep cursors only. -/
theorem advanceWith_congr {read read' : Cursor → List NodeId} (c : Cursor)
    (h : ∀ r, r.depth < c.depth → read r = read' r) :
    c.advanceWith F read = c.advanceWith F read' := by
  induction c with
  | list rest => cases rest <;> rfl
  | children pending source ih => cases pending <;> simp only [advanceWith, ih h]
  | descendants stack source ih => cases stack <;> simp only [advanceWith, ih h]
  | step s source ih => simp only [advanceWith, ih h]
  | skip count source ih => cases count <;> simp only [advanceWith, ih h]
  | take count source ih => cases count <;> simp only [advanceWith, ih h]
  | everyNth n i source ih => simp only [advanceWith, ih h]
  | union seen left right ih _ =>
    simp only [advanceWith, ih fun r hr => h r (lt_max_of_lt_left hr)]
  | unseen seen right ih => simp only [advanceWith, ih h]
  | members keep left right ih _ =>
    simp only [advanceWith, ih fun r hr => h r (lt_max_of_lt_left hr),
      h right (lt_max_of_lt_right (Nat.lt_succ_self _))]
  | amongst keep known left ih => simp only [advanceWith, ih h]
  | difference left right ih _ =>
    simp only [advanceWith, ih fun r hr => h r (lt_max_of_lt_left hr),
      h right (lt_max_of_lt_right (Nat.lt_succ_self _))]
  | differenceFrom seen known left ih => simp only [advanceWith, ih h]
  | matching n position accepts => simp only [advanceWith]

/-- What a step has to do with the nodes that remained before it. -/
def Follows (F : Forest) (c : Cursor) : Event → Prop
  | .done => c.remaining F = []
  | .idle c' => c'.remaining F = c.remaining F ∧ c'.steps F < c.steps F
  | .yield n c' => c.remaining F = n :: c'.remaining F ∧ c'.steps F < c.steps F

/-- What a cursor over a source gives is a function of the nodes that remain in the source, and
its steps are those of the source and some more that depend on these nodes. -/
structure Passes (F : Forest) (f : Cursor → Cursor) (r : List NodeId → List NodeId)
    (k : List NodeId → Nat) : Prop where
  remaining_eq : ∀ s, (f s).remaining F = r (s.remaining F)
  steps_eq : ∀ s, (f s).steps F = s.steps F + k (s.remaining F)
  nil : r [] = []

/-- A cursor that goes on with its source, except that it does `g` with a node, follows if it does
so with each node. -/
theorem follows_source {f : Cursor → Cursor} {r : List NodeId → List NodeId}
    {k : List NodeId → Nat} {g : NodeId → Cursor → Event}
    (ih : source.Follows F (source.advanceWith F read)) (hf : Passes F f r k)
    (hadv : (f source).advanceWith F read =
      match source.advanceWith F read with
      | .yield n s => g n s
      | e => e.map f)
    (hg : ∀ n s, source.remaining F = n :: s.remaining F → s.steps F < source.steps F →
      (f source).Follows F (g n s)) :
    (f source).Follows F ((f source).advanceWith F read) := by
  rw [hadv]
  cases h : source.advanceWith F read with
  | done =>
    rw [h] at ih
    show (f source).remaining F = []
    rw [hf.remaining_eq, show source.remaining F = [] from ih, hf.nil]
  | idle s =>
    rw [h] at ih
    obtain ⟨hr, hs⟩ := ih
    refine ⟨?_, ?_⟩
    · rw [hf.remaining_eq, hf.remaining_eq, hr]
    · rw [hf.steps_eq, hf.steps_eq, hr]
      omega
  | yield n s =>
    rw [h] at ih
    exact hg n s ih.1 ih.2

theorem follows_member {keep : Bool} {known : List NodeId} {n : NodeId} {c s : Cursor}
    (hr : source.remaining F = n :: s.remaining F)
    (hc : c.remaining F = TreeQuery.amongst keep known (source.remaining F))
    (hs : s.steps F < c.steps F) :
    c.Follows F (if known.contains n == keep then .yield n (amongst keep known s)
      else .idle (amongst keep known s)) := by
  split
  · next h =>
    refine ⟨?_, hs⟩
    simp only [hc, hr, remaining, TreeQuery.amongst, List.filter_cons, if_pos h]
  · next h =>
    refine ⟨?_, hs⟩
    simp only [hc, hr, remaining, TreeQuery.amongst, List.filter_cons, if_neg h]

theorem follows_side {seen known : List NodeId} {n : NodeId} {c s : Cursor}
    (hr : source.remaining F = n :: s.remaining F)
    (hc : c.remaining F = TreeQuery.amongst false known (source.remaining F) ++
      TreeQuery.amongst false (source.remaining F ++ seen) known)
    (hs : (differenceFrom (n :: seen) known s).steps F < c.steps F) :
    c.Follows F (if known.contains n then .idle (differenceFrom (n :: seen) known s)
      else .yield n (differenceFrom (n :: seen) known s)) := by
  have hseen : TreeQuery.amongst false (s.remaining F ++ n :: seen) known =
      TreeQuery.amongst false (n :: s.remaining F ++ seen) known := by
    refine amongst_congr known fun m => ?_
    simp only [List.mem_append, List.mem_cons]
    tauto
  split
  · next h =>
    refine ⟨?_, hs⟩
    have hleft : TreeQuery.amongst false known (n :: s.remaining F) =
        TreeQuery.amongst false known (s.remaining F) := by
      rw [TreeQuery.amongst, List.filter_cons, if_neg (by simpa using h)]
      rfl
    rw [hc, hr, hleft, remaining, hseen]
  · next h =>
    refine ⟨?_, hs⟩
    have hleft : TreeQuery.amongst false known (n :: s.remaining F) =
        n :: TreeQuery.amongst false known (s.remaining F) := by
      rw [TreeQuery.amongst, List.filter_cons, if_pos (by simpa using h)]
      rfl
    rw [hc, hr, hleft, remaining, hseen, List.cons_append]

theorem follows_list (rest : List NodeId) :
    (list rest).Follows F ((list rest).advanceWith F read) := by
  cases rest with
  | nil => rfl
  | cons n rest => exact ⟨rfl, Nat.lt_succ_self _⟩

theorem follows_children (ih : source.Follows F (source.advanceWith F read))
    (pending : List NodeId) :
    (children pending source).Follows F ((children pending source).advanceWith F read) := by
  cases pending with
  | cons n pending =>
    refine ⟨rfl, ?_⟩
    simp only [steps, List.length_cons]
    omega
  | nil =>
    refine follows_source (r := fun ns => ns.flatMap F.children)
      (k := fun ns => (ns.flatMap F.children).length)
      (g := fun n s => .idle (children (F.children n) s)) ih
      ⟨fun _ => rfl, fun _ => rfl, rfl⟩ rfl fun n s hr hs => ⟨?_, ?_⟩
    · simp [remaining, hr]
    · simp only [steps, hr, List.flatMap_cons, List.length_append, List.length_nil]
      omega

theorem follows_descendants (hF : F.WellFormed) (ih : source.Follows F (source.advanceWith F read))
    (stack : List NodeId) :
    (descendants stack source).Follows F ((descendants stack source).advanceWith F read) := by
  cases stack with
  | cons n stack =>
    refine ⟨?_, ?_⟩
    · simp only [remaining, List.flatMap_cons, List.flatMap_append, Forest.preorder_eq hF n,
        List.cons_append, List.append_assoc]
    · simp only [steps, List.flatMap_cons, List.flatMap_append, Forest.preorder_eq hF n,
        List.length_append, List.length_cons]
      omega
  | nil =>
    refine follows_source (r := fun ns => ns.flatMap F.descendants)
      (k := fun ns => (ns.flatMap F.descendants).length)
      (g := fun n s => .idle (descendants (F.children n) s)) ih
      ⟨fun _ => rfl, fun _ => rfl, rfl⟩ rfl fun n s hr hs => ⟨?_, ?_⟩
    · simp [remaining, hr, Forest.descendants_eq hF n]
    · simp only [steps, hr, List.flatMap_cons, List.flatMap_nil, Forest.descendants_eq hF n,
        List.length_append, List.length_nil]
      omega

theorem follows_step (ih : source.Follows F (source.advanceWith F read))
    (s : Selector Value) :
    (step s source).Follows F ((step s source).advanceWith F read) := by
  refine follows_source (r := List.filterMap (s.step? F)) (k := fun _ => 0)
    (g := fun n t => (s.step? F n).elim (.idle (step s t)) fun m => .yield m (step s t)) ih
    ⟨fun _ => rfl, fun _ => rfl, rfl⟩ ?_ fun n t hr hs => ?_
  · rw [advanceWith]
    cases source.advanceWith F read with
    | yield n t =>
      dsimp only
      cases s.step? F n <;> rfl
    | _ => rfl
  · cases hm : s.step? F n with
    | none =>
      refine ⟨?_, hs⟩
      simp only [remaining, hr, List.filterMap_cons, hm]
    | some m =>
      refine ⟨?_, hs⟩
      simp only [remaining, hr, List.filterMap_cons, hm]

theorem follows_skip (ih : source.Follows F (source.advanceWith F read)) (count : Nat) :
    (skip count source).Follows F ((skip count source).advanceWith F read) := by
  cases count with
  | zero =>
    refine follows_source (r := fun ns => ns.drop 0) (k := fun _ => 0)
      (g := fun n s => .yield n (skip 0 s)) ih ⟨fun _ => rfl, fun _ => rfl, rfl⟩ ?_
      fun n s hr hs => ⟨?_, hs⟩
    · rw [advanceWith]
      cases source.advanceWith F read <;> rfl
    · simp only [remaining, hr, List.drop_zero]
  | succ count =>
    refine follows_source (r := fun ns => ns.drop (count + 1)) (k := fun _ => 0)
      (g := fun _ s => .idle (skip count s)) ih ⟨fun _ => rfl, fun _ => rfl, rfl⟩ rfl
      fun n s hr hs => ⟨?_, hs⟩
    simp only [remaining, hr, List.drop_succ_cons]

theorem follows_take (ih : source.Follows F (source.advanceWith F read)) (count : Nat) :
    (take count source).Follows F ((take count source).advanceWith F read) := by
  cases count with
  | zero => exact List.take_zero
  | succ count =>
    refine follows_source (r := fun ns => ns.take (count + 1)) (k := fun _ => 0)
      (g := fun n s => .yield n (take count s)) ih ⟨fun _ => rfl, fun _ => rfl, rfl⟩ rfl
      fun n s hr hs => ⟨?_, hs⟩
    simp only [remaining, hr, List.take_succ_cons]

theorem follows_everyNth (ih : source.Follows F (source.advanceWith F read)) (n i : Nat) :
    (everyNth n i source).Follows F ((everyNth n i source).advanceWith F read) := by
  refine follows_source (r := TreeQuery.everyNth n i) (k := fun _ => 0)
    (g := fun x s => if i % n = 0 then .yield x (everyNth n (i + 1) s)
      else .idle (everyNth n (i + 1) s)) ih ⟨fun _ => rfl, fun _ => rfl, rfl⟩ rfl
    fun x s hr hs => ?_
  split
  · next hi =>
    refine ⟨?_, hs⟩
    simp only [remaining, hr, TreeQuery.everyNth, if_pos hi]
  · next hi =>
    refine ⟨?_, hs⟩
    simp only [remaining, hr, TreeQuery.everyNth, if_neg hi]

theorem follows_union (ih : left.Follows F (left.advanceWith F read)) (seen : List NodeId)
    (right : Cursor) :
    (union seen left right).Follows F ((union seen left right).advanceWith F read) := by
  rw [advanceWith]
  cases h : left.advanceWith F read with
  | done =>
    -- the right side begins, and `seen` holds all of the left one
    rw [h, Follows] at ih
    refine ⟨?_, ?_⟩
    · simp only [remaining, ih, List.nil_append]
    · simp only [steps]
      omega
  | idle s =>
    rw [h] at ih
    refine ⟨?_, ?_⟩
    · simp only [remaining, ih.1]
    · have := ih.2
      simp only [steps]
      omega
  | yield n s =>
    rw [h] at ih
    refine ⟨?_, ?_⟩
    · simp only [remaining, ih.1, List.cons_append, List.cons.injEq, true_and,
        List.append_cancel_left_eq]
      refine firstsOutside_congr _ fun m => ?_
      simp only [List.mem_cons, List.mem_append]
      tauto
    · have := ih.2
      simp only [steps]
      omega

theorem follows_unseen (ih : right.Follows F (right.advanceWith F read))
    (seen : List NodeId) :
    (unseen seen right).Follows F ((unseen seen right).advanceWith F read) := by
  refine follows_source (r := firstsOutside seen) (k := fun _ => 0)
    (g := fun n s => if seen.contains n then .idle (unseen seen s)
      else .yield n (unseen (n :: seen) s)) ih ⟨fun _ => rfl, fun _ => rfl, rfl⟩ rfl
    fun n s hr hs => ?_
  split
  · next hn =>
    refine ⟨?_, hs⟩
    simp only [remaining, hr, firstsOutside, if_pos hn]
  · next hn =>
    refine ⟨?_, hs⟩
    simp only [remaining, hr, firstsOutside, if_neg hn]

theorem follows_members (ih : left.Follows F (left.advanceWith F read))
    (hright : read right = right.remaining F) (keep : Bool) :
    (members keep left right).Follows F ((members keep left right).advanceWith F read) := by
  refine follows_source (f := fun s => members keep s right)
    (r := TreeQuery.amongst keep (right.remaining F)) (k := fun _ => 0)
    (g := fun n s => if (right.remaining F).contains n == keep
      then .yield n (amongst keep (right.remaining F) s)
      else .idle (amongst keep (right.remaining F) s)) ih
    ⟨fun _ => rfl, fun _ => rfl, rfl⟩ ?_ fun n s hr hs => ?_
  · rw [← hright]
    rfl
  · exact follows_member hr rfl hs

theorem follows_amongst (ih : left.Follows F (left.advanceWith F read)) (keep : Bool)
    (known : List NodeId) :
    (amongst keep known left).Follows F ((amongst keep known left).advanceWith F read) := by
  refine follows_source (r := TreeQuery.amongst keep known) (k := fun _ => 0)
    (g := fun n s => if known.contains n == keep then .yield n (amongst keep known s)
      else .idle (amongst keep known s)) ih ⟨fun _ => rfl, fun _ => rfl, rfl⟩ rfl
    fun n s hr hs => ?_
  exact follows_member hr rfl hs

theorem follows_difference (ih : left.Follows F (left.advanceWith F read))
    (hright : read right = right.remaining F) :
    (difference left right).Follows F ((difference left right).advanceWith F read) := by
  rw [advanceWith, hright]
  cases h : left.advanceWith F read with
  | done =>
    -- the left side was empty, so that all of the right one is on one side only
    rw [h, Follows] at ih
    refine ⟨?_, ?_⟩
    · simp [remaining, ih, SetOp.combine, TreeQuery.amongst]
    · simp only [steps]
      omega
  | idle s =>
    rw [h] at ih
    refine ⟨?_, ?_⟩
    · simp only [remaining, ih.1]
    · have := ih.2
      simp only [steps]
      omega
  | yield n s =>
    rw [h] at ih
    refine follows_side ih.1 ?_ ?_
    · rw [remaining, List.append_nil]
      rfl
    · have := ih.2
      simp only [steps]
      omega

theorem follows_differenceFrom (ih : left.Follows F (left.advanceWith F read))
    (seen known : List NodeId) :
    (differenceFrom seen known left).Follows F
      ((differenceFrom seen known left).advanceWith F read) := by
  rw [advanceWith]
  cases h : left.advanceWith F read with
  | done =>
    rw [h, Follows] at ih
    refine ⟨?_, ?_⟩
    · simp [remaining, ih, TreeQuery.amongst]
    · have := length_amongst_le false seen known
      simp only [steps]
      omega
  | idle s =>
    rw [h] at ih
    refine ⟨?_, ?_⟩
    · simp only [remaining, ih.1]
    · have := ih.2
      simp only [steps]
      omega
  | yield n s =>
    rw [h] at ih
    refine follows_side ih.1 rfl ?_
    have := ih.2
    simp only [steps]
    omega

theorem follows_matching (n : NodeId) (position : Nat) (accepts : String → Bool) :
    (matching n position accepts).Follows F
      ((matching n position accepts).advanceWith F read) := by
  rw [advanceWith, Forest.child?]
  cases h : (F.children n)[position]? with
  | none =>
    have hlen := List.getElem?_eq_none_iff.1 h
    simp only [Follows, remaining, List.drop_eq_nil_of_le hlen, List.filter_nil]
  | some m =>
    obtain ⟨hlt, hm⟩ := List.getElem?_eq_some_iff.1 h
    have hdrop : (F.children n).drop position = m :: (F.children n).drop (position + 1) := by
      rw [List.drop_eq_getElem_cons hlt, hm]
    have hsteps : (matching n (position + 1) accepts).steps F <
        (matching n position accepts).steps F := by
      simp only [steps]
      omega
    dsimp only
    split
    · next hn =>
      refine ⟨?_, hsteps⟩
      simp only [remaining, hdrop, List.filter_cons, if_pos hn]
    · next hn =>
      refine ⟨?_, hsteps⟩
      simp only [remaining, hdrop, List.filter_cons, if_neg hn]

/-- One step follows if the right sides that it may have to read are read to what remains. -/
theorem advanceWith_follows (hF : F.WellFormed) {d : Nat}
    (hread : ∀ r, r.depth < d → read r = r.remaining F) (c : Cursor) (hc : c.depth ≤ d) :
    c.Follows F (c.advanceWith F read) := by
  induction c with
  | list rest => exact follows_list rest
  | children pending source ih => exact follows_children (ih hc) pending
  | descendants stack source ih => exact follows_descendants hF (ih hc) stack
  | step s source ih => exact follows_step (ih hc) s
  | skip count source ih => exact follows_skip (ih hc) count
  | take count source ih => exact follows_take (ih hc) count
  | everyNth n i source ih => exact follows_everyNth (ih hc) n i
  | union seen left right ih _ => exact follows_union (ih (Nat.max_le.1 hc).1) seen right
  | unseen seen right ih => exact follows_unseen (ih hc) seen
  | members keep left right ih _ =>
    obtain ⟨hl, hr⟩ := Nat.max_le.1 hc
    exact follows_members (ih hl) (hread right hr) keep
  | amongst keep known left ih => exact follows_amongst (ih hc) keep known
  | difference left right ih _ =>
    obtain ⟨hl, hr⟩ := Nat.max_le.1 hc
    exact follows_difference (ih hl) (hread right hr)
  | differenceFrom seen known left ih => exact follows_differenceFrom (ih hc) seen known
  | matching n position accepts => exact follows_matching n position accepts

end Cursor
end TreeQuery
