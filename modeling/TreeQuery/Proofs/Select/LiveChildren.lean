import TreeQuery.Proofs.Forest.Replaced
import TreeQuery.Proofs.Select.Consumption

namespace TreeQuery

namespace Turn

def added? : Turn → Option NodeId
  | edit (.add _ c) => some c
  | _ => none

def added (turns : List Turn) : List NodeId := (turns.filterMap added?).reverse

theorem added_add (p c : NodeId) (turns : List Turn) :
    added (edit (.add p c) :: turns) = added turns ++ [c] :=
  List.reverse_cons ..

def cuts : List Turn → Nat
  | [] => 0
  | edit (.untie _) :: turns => cuts turns + 1
  | _ :: turns => cuts turns

/-- How many nodes of a list are behind: those up to the last one that was given, and one more for
each cut since. -/
def passed (listed : List NodeId) : List Turn → Nat
  | [] => 0
  | give m :: _ => listed.idxOf m + 1
  | edit (.untie _) :: turns => passed listed turns + 1
  | edit _ :: turns => passed listed turns

theorem passed_append {listed : List NodeId} {turns : List Turn}
    (h : ∀ m ∈ given turns, m ∈ listed) (more : List NodeId) :
    passed (listed ++ more) turns = passed listed turns := by
  induction turns with
  | nil => rfl
  | cons turn turns ih =>
    cases turn with
    | give m =>
      have hm : m ∈ listed := h m (by rw [given_give]; simp)
      rw [passed, passed, List.idxOf_append_of_mem hm]
    | edit e =>
      have hrest := ih h
      cases e <;> simp only [passed, hrest]

end Turn

section Positions
variable {l skipped rest : List NodeId} {c m : NodeId} {i : Nat}

theorem lt_length_of_drop (h : l.drop i = skipped ++ m :: rest) : i + skipped.length < l.length := by
  have := congrArg List.length h
  rw [List.length_drop, List.length_append, List.length_cons] at this
  omega

theorem take_of_drop (h : l.drop i = skipped ++ m :: rest) :
    l.take (i + (skipped.length + 1)) = l.take i ++ (skipped ++ [m]) := by
  rw [List.take_add, h, List.take_length_add_append, List.take_succ_cons, List.take_zero]

theorem idxOf_of_drop (hl : l.Nodup) (h : l.drop i = skipped ++ m :: rest) :
    l.idxOf m = i + skipped.length := by
  have hlen := lt_length_of_drop h
  have hsplit : l = (l.take i ++ skipped) ++ m :: rest := by
    rw [List.append_assoc, ← h, List.take_append_drop]
  rw [hsplit] at hl
  have hnot : m ∉ l.take i ++ skipped := fun hm =>
    List.disjoint_of_nodup_append hl hm List.mem_cons_self
  rw [hsplit, List.idxOf_append_of_notMem hnot, List.idxOf_cons_self, List.length_append,
    List.length_take_of_le (by omega), Nat.add_zero]

theorem drop_erase_of_mem_take (h : c ∈ l.take i) : (l.erase c).drop i = l.drop (i + 1) := by
  induction l generalizing i with
  | nil => rw [List.erase_nil, List.drop_nil, List.drop_nil]
  | cons a l ih =>
    cases i with
    | zero => exact absurd h List.not_mem_nil
    | succ i =>
      rw [List.drop_succ_cons]
      by_cases ha : a = c
      · rw [ha, List.erase_cons_head]
      · have hmem : c ∈ l.take i := (List.mem_cons.1 h).resolve_left (Ne.symm ha)
        rw [List.erase_cons_tail (by simpa using ha), List.drop_succ_cons, ih hmem]

end Positions

/-- What a position in the list of children says about the list of all that have ever been there:
`passed` of these are behind it, one more for each cut, and what is ahead is the same in both. -/
structure Aligned (listed children given : List NodeId) (accepts : NodeId → Bool)
    (position cuts passed : Nat) : Prop where
  nodup : listed.Nodup
  current : children.Sublist listed
  level : position + cuts = passed
  count : children.length + cuts = listed.length
  ahead : children.drop position = listed.drop passed
  ordered : given.Sublist ((listed.take passed).filter accepts)
  /-- What was not given and is behind was passed over for a cut, and a cut that found nothing ahead
  is yet to show. -/
  missing : ((listed.take passed).filter accepts).length + (passed - listed.length) ≤
    given.length + cuts

namespace Aligned

variable {listed children given skipped rest : List NodeId} {accepts : NodeId → Bool}
  {position cuts passed : Nat} {c m : NodeId}

theorem opened (h : children.Nodup) : Aligned children children [] accepts 0 0 0 where
  nodup := h
  current := .refl _
  level := rfl
  count := rfl
  ahead := rfl
  ordered := List.nil_sublist _
  missing := by simp

theorem give (h : Aligned listed children given accepts position cuts passed)
    (hdrop : children.drop position = skipped ++ m :: rest)
    (hskipped : ∀ c ∈ skipped, accepts c = false) (hm : accepts m = true) :
    Aligned listed children (given ++ [m]) accepts (position + skipped.length + 1) cuts
      (listed.idxOf m + 1) := by
  have hahead : listed.drop passed = skipped ++ m :: rest := h.ahead.symm.trans hdrop
  have hlen := lt_length_of_drop hahead
  have hfilter : (listed.take (passed + (skipped.length + 1))).filter accepts =
      (listed.take passed).filter accepts ++ [m] := by
    have hnone : skipped.filter accepts = [] :=
      List.filter_eq_nil_iff.2 fun c hc => Bool.eq_false_iff.1 (hskipped c hc)
    rw [take_of_drop hahead, List.filter_append, List.filter_append, hnone, List.filter_singleton,
      hm]
    rfl
  have hlevel := h.level
  have hmissing := h.missing
  rw [idxOf_of_drop h.nodup hahead, Nat.add_assoc, Nat.add_assoc]
  refine ⟨h.nodup, h.current, by omega, h.count, ?_, ?_, ?_⟩
  · rw [← List.drop_drop, h.ahead, List.drop_drop]
  · rw [hfilter]
    exact h.ordered.append_right [m]
  · rw [hfilter, List.length_append, List.length_append]
    omega

theorem cut (h : Aligned listed children given accepts position cuts passed)
    (hgiven : c ∈ given) (hc : c ∈ children) :
    Aligned listed (children.erase c) given accepts position (cuts + 1) (passed + 1) := by
  -- what was given is behind the position, and what is ahead of it stays the same
  have hbehind : c ∈ children.take position := by
    have htake : c ∈ listed.take passed := (List.mem_filter.1 (h.ordered.subset hgiven)).1
    have hnot : c ∉ children.drop position := fun hmem =>
      List.disjoint_take_drop h.nodup le_rfl htake (h.ahead ▸ hmem)
    rw [← List.take_append_drop position children, List.mem_append] at hc
    exact hc.resolve_right hnot
  have hlevel := h.level
  have hcount := h.count
  have hmissing := h.missing
  have hpos : 0 < children.length := List.length_pos_of_mem hc
  have hgrow : ((listed.take passed).filter accepts).Sublist
      ((listed.take (passed + 1)).filter accepts) :=
    (List.take_sublist_take_left (Nat.le_succ passed)).filter accepts
  refine ⟨h.nodup, List.erase_sublist.trans h.current, by omega, ?_, ?_, h.ordered.trans hgrow, ?_⟩
  · rw [List.length_erase_of_mem hc]
    omega
  · rw [drop_erase_of_mem_take hbehind, ← List.drop_drop, h.ahead, List.drop_drop]
  · rw [List.take_add, List.filter_append, List.length_append]
    have hone := List.length_filter_le accepts ((listed.drop passed).take 1)
    rw [List.length_take, List.length_drop] at hone
    omega

theorem join (h : Aligned listed children given accepts position cuts passed) (hc : c ∉ listed) :
    Aligned (listed ++ [c]) (children ++ [c]) given accepts position cuts passed := by
  have hlevel := h.level
  have hcount := h.count
  have hmissing := h.missing
  have hgrow : ((listed.take passed).filter accepts).Sublist
      (((listed ++ [c]).take passed).filter accepts) := by
    rw [List.take_append]
    exact (List.sublist_append_left _ _).filter accepts
  refine ⟨?_, h.current.append_right [c], h.level, ?_, ?_, h.ordered.trans hgrow, ?_⟩
  · exact List.nodup_append.2 ⟨h.nodup, List.nodup_singleton c, fun a ha b hb hab =>
      hc (List.mem_singleton.1 hb ▸ hab ▸ ha)⟩
  · rw [List.length_append, List.length_append]
    omega
  · rw [List.drop_append, List.drop_append, h.ahead,
      show position - children.length = passed - listed.length by omega]
  · rw [List.take_append, List.filter_append, List.length_append, List.length_append,
      List.length_singleton]
    have hone := List.length_filter_le accepts (([c] : List NodeId).take (passed - listed.length))
    rw [List.length_take, List.length_singleton] at hone
    omega

theorem accepts_congr {accepts' : NodeId → Bool}
    (h : Aligned listed children given accepts position cuts passed)
    (haccepts : ∀ c ∈ listed, accepts' c = accepts c) :
    Aligned listed children given accepts' position cuts passed := by
  have hfilter : (listed.take passed).filter accepts' = (listed.take passed).filter accepts :=
    List.filter_congr fun c hc => haccepts c (List.mem_of_mem_take hc)
  exact ⟨h.nodup, h.current, h.level, h.count, h.ahead, hfilter ▸ h.ordered, hfilter ▸ h.missing⟩

end Aligned

namespace Cursor

variable {F G H : Forest} {n m c : NodeId} {turns : List Turn} {d d' : Cursor} {position : Nat}
  {accepts : String → Bool}

theorem pull?_matching_none (hG : G.WellFormed) (h : (G.children n)[position]? = none) :
    (matching n position accepts).pull? G = none := by
  rw [pull?_eq hG, advanceWith, Forest.child?, h]
  rfl

theorem pull?_matching_some (hG : G.WellFormed) (h : (G.children n)[position]? = some c) :
    (matching n position accepts).pull? G =
      if accepts (G.name c) then some (c, matching n (position + 1) accepts)
      else (matching n (position + 1) accepts).pull? G := by
  rw [pull?_eq hG, advanceWith, Forest.child?, h]
  dsimp only
  split <;> rfl

theorem exists_skipped (hG : G.WellFormed)
    (hp : (matching n position accepts).pull? G = some (m, d')) :
    ∃ skipped rest, (G.children n).drop position = skipped ++ m :: rest ∧
      (∀ c ∈ skipped, accepts (G.name c) = false) ∧ accepts (G.name m) = true ∧
      d' = matching n (position + skipped.length + 1) accepts := by
  -- on the children ahead, of which those that are not accepted are passed one by one
  induction hd : (G.children n).drop position generalizing position with
  | nil =>
    rw [pull?_matching_none hG (List.getElem?_eq_none (List.drop_eq_nil_iff.1 hd))] at hp
    exact absurd hp nofun
  | cons c ahead ih =>
    have hc : (G.children n)[position]? = some c := by
      rw [← List.head?_drop, hd, List.head?_cons]
    have hrest : (G.children n).drop (position + 1) = ahead := by
      rw [← List.drop_drop, hd, List.drop_one, List.tail_cons]
    rw [pull?_matching_some hG hc] at hp
    split at hp
    · next haccepts =>
      obtain ⟨rfl, rfl⟩ := Prod.mk.inj (Option.some.inj hp)
      exact ⟨[], ahead, rfl, nofun, haccepts, rfl⟩
    · next haccepts =>
      obtain ⟨skipped, rest, hahead, hskipped, hm, rfl⟩ := ih hp hrest
      refine ⟨c :: skipped, rest, congrArg (c :: ·) hahead, ?_, hm, ?_⟩
      · exact List.forall_mem_cons.2 ⟨Bool.eq_false_iff.2 haccepts, hskipped⟩
      · rw [List.length_cons, Nat.add_right_comm position 1, Nat.add_assoc position]

/-- All children that a node has had since the sequence of them was opened in the forest `F`. -/
def candidates (F : Forest) (n : NodeId) (turns : List Turn) : List NodeId :=
  F.children n ++ Turn.added turns

/-- What may be done while the children of a node are read: nodes are made, those that were not
among the children come last, and those that were given are taken out. -/
inductive Tending (F : Forest) (n : NodeId) (turns : List Turn) (G : Forest) : Edit → Prop
  | create (name : String) (v : Value) : Tending F n turns G (.create name v)
  | add (c : NodeId) (hc : G.contains c = true) (hnew : c ∉ candidates F n turns)
      (h : ∃ H, G.add n c = .ok H) : Tending F n turns G (.add n c)
  | untie (c : NodeId) (hgiven : c ∈ Turn.given turns) (hc : c ∈ G.children n) :
      Tending F n turns G (.untie c)

/-- What holds while the children of a node are read from a position on. -/
structure Tended (F : Forest) (n : NodeId) (accepts : String → Bool) (turns : List Turn)
    (G : Forest) (position : Nat) : Prop where
  wellFormed : G.WellFormed
  contains_self : G.contains n = true
  contains : ∀ c ∈ candidates F n turns, G.contains c = true
  aligned : Aligned (candidates F n turns) (G.children n) (Turn.given turns)
    (fun c => accepts (G.name c)) position (Turn.cuts turns)
    (Turn.passed (candidates F n turns) turns)

namespace Tended

theorem opened (hF : F.WellFormed) (hn : F.contains n = true) : Tended F n accepts [] F 0 where
  wellFormed := hF
  contains_self := hn
  contains c hc := by
    rw [candidates, Turn.added, List.filterMap_nil, List.reverse_nil, List.append_nil] at hc
    exact hF.contains_child hc
  aligned := by
    have h : candidates F n [] = F.children n := List.append_nil _
    rw [h]
    exact .opened (hF.children_nodup n)

theorem give (h : Tended F n accepts turns G position)
    (hp : (matching n position accepts).pull? G = some (m, d')) :
    ∃ position', d' = matching n position' accepts ∧
      Tended F n accepts (.give m :: turns) G position' := by
  obtain ⟨skipped, rest, hdrop, hskipped, hm, rfl⟩ := exists_skipped h.wellFormed hp
  refine ⟨_, rfl, h.wellFormed, h.contains_self, h.contains, ?_⟩
  rw [Turn.given_give]
  exact h.aligned.give hdrop hskipped hm

theorem mem_candidates_of_given (h : Tended F n accepts turns G position) :
    ∀ m ∈ Turn.given turns, m ∈ candidates F n turns := fun _ hm =>
  List.mem_of_mem_take (List.mem_filter.1 (h.aligned.ordered.subset hm)).1

theorem create (h : Tended F n accepts turns G position) (name : String) (v : Value) :
    Tended F n accepts (.edit (.create name v) :: turns) (Edit.run G (.create name v)) position := by
  have hcontains {c : NodeId} (hc : G.contains c = true) :
      (G.create name v).2.contains c = true := (Forest.contains_create G name v c).2 (.inr hc)
  refine ⟨h.wellFormed.create name v, hcontains h.contains_self,
    fun c hc => hcontains (h.contains c hc), ?_⟩
  rw [Edit.run, Forest.children_create]
  refine h.aligned.accepts_congr fun c hc => ?_
  have hne : c ≠ (G.create name v).1 := fun heq =>
    Forest.not_contains_create G name v (heq ▸ h.contains c hc)
  rw [Forest.name, Forest.get_create, if_neg hne, Forest.name]

theorem add (h : Tended F n accepts turns G position) (hc : G.contains c = true)
    (hnew : c ∉ candidates F n turns) (hadd : G.add n c = .ok H) :
    Tended F n accepts (.edit (.add n c) :: turns) H position := by
  have hwf : H.WellFormed := h.wellFormed.attach hc h.contains_self hadd
  obtain rfl := Forest.eq_adopt_of_add h.wellFormed hadd
  have hcandidates : candidates F n (.edit (.add n c) :: turns) = candidates F n turns ++ [c] := by
    rw [candidates, Turn.added_add, ← List.append_assoc, candidates]
  have hchildren : (G.adopt n c).children n = G.children n ++ [c] := by
    rw [Forest.children_adopt h.wellFormed h.contains_self,
      List.erase_of_not_mem fun hmem => hnew (h.aligned.current.subset hmem)]
  refine ⟨hwf, by rw [Forest.contains_adopt, h.contains_self], fun m hm => ?_, ?_⟩
  · rw [Forest.contains_adopt]
    rw [hcandidates, List.mem_append, List.mem_singleton] at hm
    exact hm.elim (h.contains m) fun heq => heq ▸ hc
  · have hpassed : Turn.passed (candidates F n turns ++ [c]) (.edit (.add n c) :: turns) =
        Turn.passed (candidates F n turns) turns := Turn.passed_append h.mem_candidates_of_given [c]
    rw [hcandidates, hchildren, hpassed]
    refine (h.aligned.join hnew).accepts_congr fun m _ => ?_
    rw [Forest.name_of_label (Forest.label_adopt G n c m)]

theorem untie (h : Tended F n accepts turns G position) (hgiven : c ∈ Turn.given turns)
    (hc : c ∈ G.children n) :
    Tended F n accepts (.edit (.untie c) :: turns) (Edit.run G (.untie c)) position := by
  refine ⟨h.wellFormed.untie c, ?_, fun m hm => ?_, ?_⟩
  · rw [Edit.run, Forest.contains_untie, h.contains_self]
  · rw [Edit.run, Forest.contains_untie, h.contains m hm]
  · rw [Edit.run, Forest.children_untie h.wellFormed]
    refine (h.aligned.cut hgiven hc).accepts_congr fun m _ => ?_
    rw [Forest.name_of_label (Forest.label_untie G c m)]

theorem edit (h : Tended F n accepts turns G position) {e : Edit} (he : Tending F n turns G e) :
    Tended F n accepts (.edit e :: turns) (e.run G) position := by
  cases he with
  | create name v => exact h.create name v
  | add c hc hnew hadd =>
    obtain ⟨H, hadd⟩ := hadd
    rw [Edit.run, hadd, Edit.settle]
    exact h.add hc hnew hadd
  | untie c hgiven hc => exact h.untie hgiven hc

end Tended

theorem exists_tended (hF : F.WellFormed) (hn : F.contains n = true)
    (h : Consumed (Tending F n) F (.childrenWhere n accepts) turns G d) :
    ∃ position, d = matching n position accepts ∧ Tended F n accepts turns G position := by
  induction h with
  | opened => exact ⟨0, rfl, .opened hF hn⟩
  | give _ hp ih =>
    obtain ⟨position, rfl, htended⟩ := ih
    exact htended.give hp
  | edit _ he ih =>
    obtain ⟨position, rfl, htended⟩ := ih
    exact ⟨position, rfl, htended.edit he⟩

/-- However the children of a node with accepted names are pulled while others are added to it and
some that were given are taken out, those given are children with accepted names, from the start or
added, in order and once each. The next one is the first of these that is ahead, where each cut puts
one more child behind that was not given. So at the end no more are missing than were taken out, and
none if nothing was. -/
theorem childrenWhere_passes_over_cuts (hF : F.WellFormed) (hn : F.contains n = true)
    (h : Consumed (Tending F n) F (.childrenWhere n accepts) turns G d) :
    let all := candidates F n turns
    let accepted := List.filter fun c => accepts (G.name c)
    all.Nodup ∧ (Turn.given turns).Sublist (accepted all) ∧
    (d.pull? G).map Prod.fst = (accepted (all.drop (Turn.passed all turns))).head? ∧
    (d.pull? G = none →
      (accepted all).length ≤ (Turn.given turns).length + Turn.cuts turns ∧
      (Turn.cuts turns = 0 → Turn.given turns = accepted all)) := by
  intro all accepted
  obtain ⟨position, rfl, htended⟩ := exists_tended hF hn h
  have haligned := htended.aligned
  have hordered : (Turn.given turns).Sublist (accepted all) :=
    haligned.ordered.trans ((List.take_sublist _ _).filter _)
  have hnext : ((matching n position accepts).pull? G).map Prod.fst =
      (accepted (all.drop (Turn.passed all turns))).head? := by
    rw [map_fst_pull? htended.wellFormed, remaining, haligned.ahead]
  refine ⟨haligned.nodup, hordered, hnext, fun hend => ?_⟩
  -- at the end nothing that is accepted is ahead
  rw [hend, Option.map_none, eq_comm, List.head?_eq_none_iff] at hnext
  have hbehind : accepted all = accepted (all.take (Turn.passed all turns)) := by
    conv_lhs => rw [← List.take_append_drop (Turn.passed all turns) all]
    exact (List.filter_append ..).trans ((congrArg _ hnext).trans (List.append_nil _))
  have hmissing := haligned.missing
  change (accepted (all.take (Turn.passed all turns))).length + _ ≤ _ at hmissing
  rw [← hbehind] at hmissing
  exact ⟨by omega, fun hcuts => hordered.eq_of_length_le (by omega)⟩

/-- The second child is passed over when the first one is taken out, and the one that was added
behind it is the next. -/
theorem childrenWhere_passes_over_cuts_added :
    let F := [Edit.create "r" .null, .create "a" .null, .create "b" .null, .add ⟨0⟩ ⟨1⟩,
      .add ⟨0⟩ ⟨2⟩].foldl Edit.run {}
    let G := [Edit.create "c" .null, .add ⟨0⟩ ⟨3⟩, .untie ⟨1⟩].foldl Edit.run F
    F.WellFormed ∧ F.contains ⟨0⟩ = true ∧ ∃ d,
      Consumed (Tending F ⟨0⟩) F (.childrenWhere ⟨0⟩ fun _ => true)
        [.edit (.untie ⟨1⟩), .edit (.add ⟨0⟩ ⟨3⟩), .edit (.create "c" .null), .give ⟨1⟩] G d ∧
      G.children ⟨0⟩ = [⟨2⟩, ⟨3⟩] ∧ (d.pull? G).map Prod.fst = some ⟨3⟩ := by
  intro F G
  have hF : F.WellFormed :=
    (Forest.Reachable.empty.foldl (by decide +kernel) : F.Reachable).wellFormed
  have hgive : (childrenWhere ⟨0⟩ fun _ => true).pull? F =
      some (⟨1⟩, .matching ⟨0⟩ 1 fun _ => true) :=
    pull?_matching_some hF (c := ⟨1⟩) (by decide +kernel)
  have hcreate := Consumed.edit (.give .opened hgive)
    (Tending.create (F := F) (n := ⟨0⟩) "c" .null)
  have hadd := Consumed.edit hcreate
    (.add ⟨3⟩ (by decide +kernel) (by decide +kernel) ⟨_, rfl⟩)
  have h := Consumed.edit hadd (.untie ⟨1⟩ (by decide +kernel) (by decide +kernel))
  obtain ⟨-, -, hnext, -⟩ := childrenWhere_passes_over_cuts hF (by decide +kernel) h
  exact ⟨hF, by decide +kernel, _, h, by decide +kernel, hnext.trans (by decide +kernel)⟩

/-- The second child with the name is not given when the first one is taken out after it was. -/
theorem childrenWhere_misses_after_cut :
    let F := [Edit.create "r" .null, .create "a" .null, .create "a" .null, .add ⟨0⟩ ⟨1⟩,
      .add ⟨0⟩ ⟨2⟩].foldl Edit.run {}
    let G := Edit.run F (.untie ⟨1⟩)
    let turns := [Turn.edit (.untie ⟨1⟩), .give ⟨1⟩]
    F.Reachable ∧ F.contains ⟨0⟩ = true ∧ ∃ d,
      Consumed (Tending F ⟨0⟩) F (.childrenWhere ⟨0⟩ (· == "a")) turns G d ∧
      d.pull? G = none ∧ Turn.given turns = [⟨1⟩] ∧
      (candidates F ⟨0⟩ turns).filter (fun c => G.name c == "a") = [⟨1⟩, ⟨2⟩] := by
  intro F G turns
  have hF : F.Reachable := Forest.Reachable.empty.foldl (by decide +kernel)
  have hG : G.WellFormed := hF.wellFormed.untie ⟨1⟩
  have hgive : (childrenWhere ⟨0⟩ (· == "a")).pull? F =
      some (⟨1⟩, .matching ⟨0⟩ 1 (· == "a")) := by
    rw [childrenWhere, pull?_matching_some hF.wellFormed (c := ⟨1⟩) (by decide +kernel),
      if_pos (by decide +kernel)]
  have h := Consumed.edit (.give .opened hgive)
    (Tending.untie (F := F) (n := ⟨0⟩) ⟨1⟩ (by decide +kernel) (by decide +kernel))
  exact ⟨hF, by decide +kernel, _, h, pull?_matching_none hG (by decide +kernel),
    by decide +kernel, by decide +kernel⟩

end Cursor
end TreeQuery
