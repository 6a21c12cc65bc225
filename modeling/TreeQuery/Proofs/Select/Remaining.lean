import TreeQuery.Proofs.Forest.Preorder
import TreeQuery.Select.Cursor

namespace TreeQuery

/-- What is left out of a list depends on the members of the other one only. -/
theorem amongst_congr {keep : Bool} {known known' : List NodeId} (ns : List NodeId)
    (h : ∀ n, n ∈ known ↔ n ∈ known') : amongst keep known ns = amongst keep known' ns := by
  have hc : ∀ n, known.contains n = known'.contains n := fun n => by
    rw [Bool.eq_iff_iff, List.contains_iff_mem, List.contains_iff_mem, h]
  simp only [amongst, hc]

theorem firstsOutside_congr {seen seen' : List NodeId} (ns : List NodeId)
    (h : ∀ n, n ∈ seen ↔ n ∈ seen') : firstsOutside seen ns = firstsOutside seen' ns := by
  induction ns generalizing seen seen' with
  | nil => rfl
  | cons n ns ih =>
    have hc : seen.contains n = seen'.contains n := by
      rw [Bool.eq_iff_iff, List.contains_iff_mem, List.contains_iff_mem, h]
    have hcons : ∀ m, m ∈ n :: seen ↔ m ∈ n :: seen' := fun m => by
      rw [List.mem_cons, List.mem_cons, h]
    rw [firstsOutside, firstsOutside, hc, ih h, ih hcons]

theorem length_firstsOutside_le (seen ns : List NodeId) :
    (firstsOutside seen ns).length ≤ ns.length := by
  induction ns generalizing seen with
  | nil => exact le_rfl
  | cons n ns ih =>
    rw [firstsOutside, List.length_cons]
    split
    · have := ih seen
      omega
    · have := ih (n :: seen)
      rw [List.length_cons]
      omega

theorem length_everyNth_le (n i : Nat) (ns : List NodeId) :
    (everyNth n i ns).length ≤ ns.length := by
  induction ns generalizing i with
  | nil => exact le_rfl
  | cons x ns ih =>
    have := ih (i + 1)
    rw [everyNth, List.length_cons]
    split
    · rw [List.length_cons]
      omega
    · omega

theorem length_amongst_le (keep : Bool) (known ns : List NodeId) :
    (amongst keep known ns).length ≤ ns.length :=
  List.length_filter_le _ _

theorem length_flatMap_le {f : NodeId → List NodeId} {k : Nat} (ns : List NodeId)
    (h : ∀ n ∈ ns, (f n).length ≤ k) : (ns.flatMap f).length ≤ ns.length * k := by
  induction ns with
  | nil => simp
  | cons n ns ih =>
    have hn := h n List.mem_cons_self
    have hns := ih fun m hm => h m (List.mem_cons_of_mem n hm)
    rw [List.flatMap_cons, List.length_append, List.length_cons, Nat.succ_mul]
    omega

namespace Cursor

variable {F : Forest}

/-- All that a cursor will give if the forest stays as it is. -/
def remaining (F : Forest) : Cursor → List NodeId
  | list rest => rest
  | children pending source => pending ++ (source.remaining F).flatMap F.children
  | descendants stack source =>
    stack.flatMap F.preorder ++ (source.remaining F).flatMap F.descendants
  | step s source => (source.remaining F).filterMap (s.step? F)
  | skip count source => (source.remaining F).drop count
  | take count source => (source.remaining F).take count
  | everyNth n i source => TreeQuery.everyNth n i (source.remaining F)
  | union seen left right =>
    let ls := left.remaining F
    ls ++ firstsOutside (ls ++ seen) (right.remaining F)
  | unseen seen right => firstsOutside seen (right.remaining F)
  | members keep left right => TreeQuery.amongst keep (right.remaining F) (left.remaining F)
  | amongst keep known left => TreeQuery.amongst keep known (left.remaining F)
  | difference left right => SetOp.xor.combine (left.remaining F) (right.remaining F)
  | differenceFrom seen known left =>
    let ls := left.remaining F
    TreeQuery.amongst false known ls ++ TreeQuery.amongst false (ls ++ seen) known
  | matching n position accepts =>
    ((F.children n).drop position).filter fun c => accepts (F.name c)

/-- A bound for the steps that a cursor still makes if the forest stays as it is. -/
def steps (F : Forest) : Cursor → Nat
  | list rest => rest.length
  | children pending source =>
    source.steps F + (((source.remaining F).flatMap F.children).length + pending.length)
  | descendants stack source =>
    source.steps F +
      (((source.remaining F).flatMap F.descendants).length + (stack.flatMap F.preorder).length)
  | step _ source => source.steps F
  | skip _ source => source.steps F
  | take _ source => source.steps F
  | everyNth _ _ source => source.steps F
  | union _ left right => left.steps F + right.steps F + 1
  | unseen _ right => right.steps F
  | members _ left _ => left.steps F
  | amongst _ _ left => left.steps F
  | difference left right => left.steps F + (right.remaining F).length + 1
  | differenceFrom _ known left => left.steps F + known.length + 1
  | matching n position _ => (F.children n).length - position

theorem length_remaining_le_steps (F : Forest) (c : Cursor) :
    (c.remaining F).length ≤ c.steps F := by
  induction c with
  | list rest => exact le_rfl
  | children pending source ih =>
    simp only [remaining, steps, List.length_append]
    omega
  | descendants stack source ih =>
    simp only [remaining, steps, List.length_append]
    omega
  | step s source ih => exact (List.length_filterMap_le _ _).trans ih
  | skip count source ih =>
    simp only [remaining, steps, List.length_drop]
    omega
  | take count source ih =>
    simp only [remaining, steps, List.length_take]
    omega
  | everyNth n i source ih => exact (length_everyNth_le n i _).trans ih
  | union seen left right ihl ihr =>
    have := length_firstsOutside_le (left.remaining F ++ seen) (right.remaining F)
    simp only [remaining, steps, List.length_append]
    omega
  | unseen seen right ih => exact (length_firstsOutside_le seen _).trans ih
  | members keep left right ihl ihr => exact (length_amongst_le keep _ _).trans ihl
  | amongst keep known left ih => exact (length_amongst_le keep known _).trans ih
  | difference left right ihl ihr =>
    have hl := length_amongst_le false (right.remaining F) (left.remaining F)
    have hr := length_amongst_le false (left.remaining F) (right.remaining F)
    simp only [remaining, steps, SetOp.combine, List.length_append]
    omega
  | differenceFrom seen known left ih =>
    have hl := length_amongst_le false known (left.remaining F)
    have hr := length_amongst_le false (left.remaining F ++ seen) known
    simp only [remaining, steps, List.length_append]
    omega
  | matching n position accepts =>
    have := List.length_filter_le (fun c => accepts (F.name c)) ((F.children n).drop position)
    simp only [remaining, steps]
    rw [List.length_drop] at this
    exact this

theorem length_children_le (hF : F.WellFormed) (n : NodeId) : (F.children n).length ≤ F.size :=
  Forest.length_le_size (hF.children_nodup n) fun _ h => hF.contains_child h

theorem length_preorder_le_succ (hF : F.WellFormed) (n : NodeId) :
    (F.preorder n).length ≤ F.size + 1 := by
  by_cases hn : F.contains n = true
  · have := Forest.length_preorder_le hF hn
    omega
  · rw [Forest.preorder_eq hF, Forest.children_of_not_contains hn]
    simp

theorem length_descendants_le (hF : F.WellFormed) (n : NodeId) :
    (F.descendants n).length ≤ F.size := by
  have := length_preorder_le_succ hF n
  rw [Forest.preorder_eq hF, List.length_cons] at this
  rw [Forest.descendants_eq hF]
  omega

theorem steps_le_work (hF : F.WellFormed) (c : Cursor) : c.steps F ≤ c.work F.size := by
  induction c with
  | list rest => exact Nat.le_succ _
  | children pending source ih =>
    have hlen := length_remaining_le_steps F source
    have hflat := length_flatMap_le (source.remaining F) fun n _ => length_children_le hF n
    -- each node of the source can have all others as children
    have hmul : (source.remaining F).length * F.size ≤ source.work F.size * F.size :=
      Nat.mul_le_mul_right _ (hlen.trans ih)
    simp only [steps, work, Nat.succ_mul, Nat.mul_comm F.size]
    omega
  | descendants stack source ih =>
    have hlen := length_remaining_le_steps F source
    have hflat := length_flatMap_le (source.remaining F) fun n _ => length_descendants_le hF n
    have hstack := length_flatMap_le stack fun n _ => length_preorder_le_succ hF n
    have hmul : (source.remaining F).length * F.size ≤ source.work F.size * F.size :=
      Nat.mul_le_mul_right _ (hlen.trans ih)
    simp only [steps, work, Nat.add_mul, Nat.mul_add, Nat.mul_one] at hstack ⊢
    omega
  | step s source ih => exact ih
  | skip count source ih => exact ih
  | take count source ih => exact ih.trans (Nat.le_succ _)
  | everyNth n i source ih => exact ih
  | union seen left right ihl ihr =>
    simp only [steps, work]
    omega
  | unseen seen right ih => exact ih
  | members keep left right ihl ihr => exact ihl
  | amongst keep known left ih => exact ih
  | difference left right ihl ihr =>
    have := length_remaining_le_steps F right
    simp only [steps, work]
    omega
  | differenceFrom seen known left ih =>
    simp only [steps, work]
    omega
  | matching n position accepts =>
    have := length_children_le hF n
    simp only [steps, work]
    omega

end Cursor
end TreeQuery
