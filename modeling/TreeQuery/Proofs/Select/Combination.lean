import Mathlib.Logic.Relation
import TreeQuery.Proofs.Forest.Reachable
import TreeQuery.Proofs.Select.Chain

namespace TreeQuery

theorem firstsOutside_eq (seen ns : List NodeId) :
    firstsOutside seen ns = (ns.filter (· ∉ seen)).eraseDups := by
  induction ns generalizing seen with
  | nil => rfl
  | cons n ns ih =>
    rw [firstsOutside, List.filter_cons]
    by_cases hn : n ∈ seen
    · rw [if_pos (List.contains_iff_mem.2 hn), if_neg (by simpa using hn), ih]
    · rw [if_neg (mt List.contains_iff_mem.1 hn), if_pos (by simpa using hn), ih,
        List.eraseDups_cons, List.filter_filter]
      -- leaving out what was seen and then `n` is leaving out both
      congr 2
      refine List.filter_congr fun m _ => ?_
      by_cases hm : m = n <;> simp [hm]

theorem amongst_true (known ns : List NodeId) : amongst true known ns = ns.filter (· ∈ known) :=
  List.filter_congr fun n _ => by simp

theorem amongst_false (known ns : List NodeId) : amongst false known ns = ns.filter (· ∉ known) :=
  List.filter_congr fun n _ => by simp

/-- What a pull gives that begins with the event. -/
def Event.pull? (F : Forest) : Event → Option (NodeId × Cursor)
  | done => none
  | idle c => c.pull? F
  | yield n c => some (n, c)

namespace Cursor

variable {F : Forest} {left left' : Cursor}

theorem pull?_eq (hF : F.WellFormed) (c : Cursor) :
    c.pull? F = (c.advanceWith F (remaining F)).pull? F := by
  have hc := advance_follows hF c
  rw [← pullWithin_eq_pull? hF (Nat.le_succ (c.steps F)), pullWithin, ← advance_eq hF]
  cases he : c.advance F with
  | done => rfl
  | idle c' =>
    rw [he] at hc
    have := hc.2
    exact pullWithin_eq_pull? hF (by omega)
  | yield n c' => rfl

theorem pull?_left (hF : F.WellFormed) {f : Cursor → Cursor} {e : Event}
    {g : NodeId → Cursor → Event}
    (hf : ∀ l, (f l).advanceWith F (remaining F) =
      match l.advanceWith F (remaining F) with
      | .done => e
      | .idle l => .idle (f l)
      | .yield n l => g n l) (left : Cursor) :
    (f left).pull? F =
      match left.pull? F with
      | none => e.pull? F
      | some (n, l) => (g n l).pull? F := by
  -- on the steps that the left side has left, as it may idle before it gives a node
  induction hs : left.steps F using Nat.strong_induction_on generalizing left with
  | h k ih =>
    have hleft := advance_follows hF left
    rw [advance_eq hF] at hleft
    rw [pull?_eq hF (f left), pull?_eq hF left, hf]
    cases he : left.advanceWith F (remaining F) with
    | done => rfl
    | idle l =>
      rw [he] at hleft
      exact ih _ (hs ▸ hleft.2) l rfl
    | yield n l => rfl

theorem pull?_union (hF : F.WellFormed) (seen : List NodeId) (left right : Cursor) :
    (union seen left right).pull? F =
      match left.pull? F with
      | none => (unseen seen right).pull? F
      | some (n, l) => some (n, union (n :: seen) l right) :=
  pull?_left hF (f := fun l => union seen l right) (e := .idle (unseen seen right))
    (g := fun n l => .yield n (union (n :: seen) l right)) (fun _ => rfl) left

/-- If only the nodes that remain in the right side show in a step, a list of them will do. -/
theorem pull?_right (hF : F.WellFormed) {f : Cursor → Cursor → Cursor} {e : List NodeId → Event}
    {g : List NodeId → NodeId → Cursor → Event}
    (hf : ∀ l r, (f l r).advanceWith F (remaining F) =
      match l.advanceWith F (remaining F) with
      | .done => e (r.remaining F)
      | .idle l => .idle (f l r)
      | .yield n l => g (r.remaining F) n l) (left right : Cursor) :
    (f left right).pull? F = (f left (list (right.remaining F))).pull? F := by
  rw [pull?_left hF (f := fun l => f l right) (fun l => hf l right) left,
    pull?_left hF (f := fun l => f l (list (right.remaining F))) (fun l => hf l _) left]
  rfl

theorem pull?_members (hF : F.WellFormed) (keep : Bool) (left right : Cursor) :
    (members keep left right).pull? F = (members keep left (list (right.remaining F))).pull? F := by
  refine pull?_right hF (f := members keep) (e := fun _ => .done)
    (g := fun known n l => if known.contains n == keep then .yield n (amongst keep known l)
      else .idle (amongst keep known l)) (fun l r => ?_) left right
  rw [advanceWith]
  cases l.advanceWith F (remaining F) <;> rfl

theorem pull?_difference (hF : F.WellFormed) (left right : Cursor) :
    (difference left right).pull? F = (difference left (list (right.remaining F))).pull? F :=
  pull?_right hF (f := difference) (e := fun known => .idle (list known))
    (g := fun known n l => if known.contains n then .idle (differenceFrom [n] known l)
      else .yield n (differenceFrom [n] known l)) (fun _ _ => rfl) left right

/-- Pulls once in each of the forests; answers with the nodes and the cursor for the next ones, or
with no cursor if the end was met. -/
def pullEach : List Forest → Cursor → List NodeId × Option Cursor
  | [], c => ([], some c)
  | F :: Fs, c =>
    match c.pull? F with
    | none => ([], none)
    | some (n, c) =>
      let (ns, rest) := pullEach Fs c
      (n :: ns, rest)

/-- Steps that give no node, with `read` for the right sides that are read as a whole. -/
def Idles (F : Forest) (read : Cursor → List NodeId) : Cursor → Cursor → Prop :=
  Relation.ReflTransGen fun c c' => c.advanceWith F read = .idle c'

/-- As long as the left side of a union gives nodes, the union gives the same ones, and its right
side is as it was. -/
theorem pullEach_union {Fs : List Forest} (hFs : ∀ F ∈ Fs, F.WellFormed) {ns : List NodeId}
    (h : left.pullEach Fs = (ns, some left')) (seen : List NodeId) (right : Cursor) :
    (union seen left right).pullEach Fs = (ns, some (union (ns.reverse ++ seen) left' right)) := by
  induction Fs generalizing seen left ns with
  | nil =>
    obtain ⟨rfl, hleft⟩ := Prod.ext_iff.1 h
    cases hleft
    rfl
  | cons F Fs ih =>
    rw [pullEach] at h ⊢
    rw [pull?_union (hFs F List.mem_cons_self)]
    cases hp : left.pull? F with
    | none =>
      rw [hp] at h
      exact absurd h nofun
    | some p =>
      obtain ⟨n, l⟩ := p
      rw [hp] at h
      obtain ⟨rfl, hleft⟩ := Prod.ext_iff.1 h
      dsimp only
      rw [ih (fun G hG => hFs G (List.mem_cons_of_mem F hG)) (Prod.ext rfl hleft) (n :: seen)]
      simp

end Cursor

namespace SetOp

variable {F : Forest} {left left' right : Cursor} {read : Cursor → List NodeId}

/-- In its first pull an operator other than `or` takes its right side for the list of nodes that
remain in it. -/
theorem pull?_cursor (hF : F.WellFormed) {op : SetOp} (hop : op ≠ .or)
    (left right : Cursor) :
    (op.cursor left right).pull? F = (op.cursor left (.list (right.remaining F))).pull? F := by
  cases op with
  | or => exact absurd rfl hop
  | and => exact Cursor.pull?_members hF true left right
  | not => exact Cursor.pull?_members hF false left right
  | xor => exact Cursor.pull?_difference hF left right

theorem advanceWith_cursor (op : SetOp) (h : left.advanceWith F read = .idle left') :
    (op.cursor left right).advanceWith F read = .idle (op.cursor left' right) := by
  cases op <;> simp only [cursor, Cursor.advanceWith, h, Event.map]

theorem idles_cursor (op : SetOp) (h : Cursor.Idles F read left left') :
    Cursor.Idles F read (op.cursor left right) (op.cursor left' right) :=
  Relation.ReflTransGen.lift (fun l => op.cursor l right)
    (fun _ _ hl => op.advanceWith_cursor hl) _ _ h

theorem gives_cursor (hF : F.WellFormed) (op : SetOp) {ls rs : List NodeId}
    (hleft : left.Gives F ls) (hright : right.Gives F rs) :
    (op.cursor left right).Gives F (op.combine ls rs) := by
  rw [Cursor.gives_iff hF] at hleft hright ⊢
  rw [op.remaining_cursor F, hleft, hright]

/-- What the operators make of two sequences, repetitions included, and when they read the right
one. As long as the left side gives no node, the right one is left alone, and `and` and `not` end
with the left side; `or` leaves it alone as long as the left side has nodes. The others read all
of it in the first pull, so that changes of the forest after that do not show in it. -/
theorem combinations_are_exact_and_lazy (hF : F.WellFormed) {ls rs : List NodeId}
    (hleft : left.Gives F ls) (hright : right.Gives F rs) :
    ((or.cursor left right).Gives F (ls ++ (rs.filter (· ∉ ls)).eraseDups) ∧
      (and.cursor left right).Gives F (ls.filter (· ∈ rs)) ∧
      (not.cursor left right).Gives F (ls.filter (· ∉ rs)) ∧
      (xor.cursor left right).Gives F (ls.filter (· ∉ rs) ++ rs.filter (· ∉ ls))) ∧
    (∀ (op : SetOp) G read left', Cursor.Idles G read left left' →
      Cursor.Idles G read (op.cursor left right) (op.cursor left' right) ∧
      (op = .and ∨ op = .not → left'.advanceWith G read = .done →
        (op.cursor left' right).advanceWith G read = .done)) ∧
    ∀ Fs : List Forest, (∀ G ∈ Fs, G.WellFormed) →
      (∀ ns left', left.pullEach Fs = (ns, some left') →
        (or.cursor left right).pullEach Fs = (ns, some (.union ns.reverse left' right))) ∧
      ∀ op : SetOp, op ≠ .or →
        (op.cursor left right).pullEach (F :: Fs) = (op.cursor left (.list rs)).pullEach (F :: Fs) := by
  refine ⟨⟨?_, ?_, ?_, ?_⟩, ?_, ?_⟩
  · have h := gives_cursor hF or hleft hright
    rwa [combine, firstsOutside_eq] at h
  · have h := gives_cursor hF and hleft hright
    rwa [combine, amongst_true] at h
  · have h := gives_cursor hF not hleft hright
    rwa [combine, amongst_false] at h
  · have h := gives_cursor hF xor hleft hright
    rwa [combine, amongst_false, amongst_false] at h
  · intro op G read left' hidles
    refine ⟨op.idles_cursor hidles, ?_⟩
    rintro (rfl | rfl) hdone <;> simp only [cursor, Cursor.advanceWith, hdone, Event.map]
  · intro Fs hFs
    refine ⟨fun ns left' h => ?_, fun op hop => ?_⟩
    · have hunion := Cursor.pullEach_union hFs h [] right
      rwa [List.append_nil] at hunion
    · rw [Cursor.pullEach, Cursor.pullEach, pull?_cursor hF hop, (Cursor.gives_iff hF).1 hright]

/-- The first child and the parents of the children, on one side only. Two more nodes are pulled
after the child has lost its parent, which the right side no longer sees. -/
theorem combinations_are_exact_and_lazy_detached :
    let F := [Edit.create "r" .null, .create "a" .null, .create "b" .null,
      .add ⟨0⟩ ⟨1⟩, .add ⟨0⟩ ⟨2⟩].foldl Edit.run {}
    let G := Edit.run F (.untie ⟨1⟩)
    let left := .step (.numbered 0) (.list [⟨0⟩])
    let right := .step .parent (.children [] (.list [⟨0⟩]))
    F.WellFormed ∧ G.WellFormed ∧ left.Gives F [⟨1⟩] ∧ right.Gives F [⟨0⟩, ⟨0⟩] ∧
      right.Gives G [⟨0⟩] ∧ (xor.cursor left right).Gives F [⟨1⟩, ⟨0⟩, ⟨0⟩] ∧
      ((xor.cursor left right).pullEach [F, G, G]).1 = [⟨1⟩, ⟨0⟩, ⟨0⟩] := by
  intro F G left right
  have hF : F.Reachable := Forest.Reachable.empty.foldl (by decide +kernel)
  have hG : G.Reachable := .edit _ hF (by decide +kernel)
  have hleft : left.Gives F [⟨1⟩] := (Cursor.gives_iff hF.wellFormed).2 (by decide +kernel)
  have hright : right.Gives F [⟨0⟩, ⟨0⟩] := (Cursor.gives_iff hF.wellFormed).2 (by decide +kernel)
  obtain ⟨⟨-, -, -, hxor⟩, -, hruns⟩ :=
    combinations_are_exact_and_lazy hF.wellFormed hleft hright
  refine ⟨hF.wellFormed, hG.wellFormed, hleft, hright,
    (Cursor.gives_iff hG.wellFormed).2 (by decide +kernel), hxor, ?_⟩
  obtain ⟨-, hread⟩ := hruns [G, G] (by simpa using hG.wellFormed)
  rw [hread xor nofun]
  decide +kernel

end SetOp

end TreeQuery
