import Mathlib.Algebra.GroupWithZero.Nat
import TreeQuery.Proofs.Select.Advance

namespace TreeQuery.Cursor

variable {F : Forest}

theorem collect_eq_remaining {step : Cursor → Event} {d : Nat}
    (hstep : ∀ c, c.depth ≤ d → c.Follows F (step c) ∧ (step c).depth ≤ c.depth) {fuel : Nat}
    {c : Cursor} (hc : c.depth ≤ d) (hs : c.steps F ≤ fuel) :
    collect step fuel c = c.remaining F := by
  -- each step leaves fewer steps, so the fuel lasts
  induction fuel generalizing c with
  | zero =>
    have := length_remaining_le_steps F c
    exact (List.length_eq_zero_iff.1 (by omega)).symm
  | succ fuel ih =>
    obtain ⟨hfollows, hdepth⟩ := hstep c hc
    rw [collect]
    cases he : step c with
    | done =>
      rw [he] at hfollows
      exact hfollows.symm
    | idle c' =>
      rw [he] at hfollows hdepth
      have := hfollows.2
      exact (ih (hdepth.trans hc) (by omega)).trans hfollows.1
    | yield n c' =>
      rw [he] at hfollows hdepth
      have := hfollows.2
      rw [hfollows.1, ← ih (hdepth.trans hc) (by omega)]

theorem drainTo_eq_remaining (hF : F.WellFormed) {d : Nat} {c : Cursor} (hc : c.depth < d) :
    c.drainTo F d = c.remaining F := by
  -- the right sides that are read as a whole on the way are less deep
  induction d generalizing c with
  | zero => exact absurd hc (Nat.not_lt_zero _)
  | succ d ih =>
    refine collect_eq_remaining (d := d) (fun c hc => ⟨?_, depth_advanceWith_le F _ c⟩)
      (Nat.lt_succ_iff.1 hc) (steps_le_work hF c)
    exact advanceWith_follows hF (fun r hr => ih hr) c hc

theorem drain_eq_remaining (hF : F.WellFormed) (c : Cursor) : c.drain F = c.remaining F :=
  drainTo_eq_remaining hF (Nat.lt_succ_self _)

theorem advance_follows (hF : F.WellFormed) (c : Cursor) : c.Follows F (c.advance F) :=
  advanceWith_follows hF (fun _ hr => drainTo_eq_remaining hF hr) c le_rfl

theorem advance_eq (hF : F.WellFormed) (c : Cursor) :
    c.advance F = c.advanceWith F (remaining F) :=
  c.advanceWith_congr fun _ hr => drainTo_eq_remaining hF hr

theorem pullWithin_of_done (hF : F.WellFormed) {fuel : Nat} {c : Cursor}
    (h : c.remaining F = []) : c.pullWithin F fuel = none := by
  induction fuel generalizing c with
  | zero => rfl
  | succ fuel ih =>
    have hc := advance_follows hF c
    rw [pullWithin]
    cases he : c.advance F with
    | done => rfl
    | idle c' =>
      rw [he] at hc
      exact ih (hc.1.trans h)
    | yield n c' =>
      rw [he] at hc
      exact absurd (h.symm.trans hc.1) nofun

theorem pullWithin_of_cons (hF : F.WellFormed) {fuel : Nat} {c : Cursor} {n : NodeId}
    {rest : List NodeId} (h : c.remaining F = n :: rest) (hs : c.steps F ≤ fuel) :
    ∃ c', c.pullWithin F fuel = some (n, c') ∧ c'.remaining F = rest := by
  induction fuel generalizing c with
  | zero =>
    have := length_remaining_le_steps F c
    rw [h, List.length_cons] at this
    omega
  | succ fuel ih =>
    have hc := advance_follows hF c
    rw [pullWithin]
    cases he : c.advance F with
    | done =>
      rw [he] at hc
      exact absurd (h.symm.trans hc) nofun
    | idle c' =>
      rw [he] at hc
      have := hc.2
      exact ih (hc.1.trans h) (by omega)
    | yield m c' =>
      rw [he] at hc
      obtain ⟨rfl, hrest⟩ := List.cons.inj (h.symm.trans hc.1)
      exact ⟨c', rfl, hrest.symm⟩

theorem pull?_of_done (hF : F.WellFormed) {c : Cursor} (h : c.remaining F = []) :
    c.pull? F = none :=
  pullWithin_of_done hF h

theorem pull?_of_cons (hF : F.WellFormed) {c : Cursor} {n : NodeId} {rest : List NodeId}
    (h : c.remaining F = n :: rest) :
    ∃ c', c.pull? F = some (n, c') ∧ c'.remaining F = rest :=
  pullWithin_of_cons hF h (steps_le_work hF c)

theorem map_fst_pull? (hF : F.WellFormed) (c : Cursor) :
    (c.pull? F).map Prod.fst = (c.remaining F).head? := by
  cases h : c.remaining F with
  | nil => rw [pull?_of_done hF h, Option.map_none, List.head?_nil]
  | cons n rest =>
    obtain ⟨c', hp, -⟩ := pull?_of_cons hF h
    rw [hp, Option.map_some, List.head?_cons]

theorem pullWithin_succ (hF : F.WellFormed) {fuel : Nat} {c : Cursor} (h : c.steps F ≤ fuel) :
    c.pullWithin F (fuel + 1) = c.pullWithin F fuel := by
  induction fuel generalizing c with
  | zero =>
    have hlen := length_remaining_le_steps F c
    have hnil : c.remaining F = [] := List.length_eq_zero_iff.1 (by omega)
    rw [pullWithin_of_done hF hnil, pullWithin_of_done hF hnil]
  | succ fuel ih =>
    have hc := advance_follows hF c
    rw [pullWithin, pullWithin]
    cases he : c.advance F with
    | done => rfl
    | idle c' =>
      rw [he] at hc
      have := hc.2
      exact ih (by omega)
    | yield n c' => rfl

/-- A bound on the steps of a pull that is large enough does not show. -/
theorem pullWithin_eq_pull? (hF : F.WellFormed) {fuel : Nat} {c : Cursor}
    (h : c.steps F ≤ fuel) : c.pullWithin F fuel = c.pull? F := by
  have hleast : ∀ {k}, c.steps F ≤ k → c.pullWithin F k = c.pullWithin F (c.steps F) := by
    intro k hk
    induction k, hk using Nat.le_induction with
    | base => rfl
    | succ k hk ih => rw [pullWithin_succ hF hk, ih]
  rw [pull?, hleast h, hleast (steps_le_work hF c)]

theorem pullUpTo_follows (hF : F.WellFormed) (k : Nat) (c : Cursor) :
    (c.pullUpTo F k).1 = (c.remaining F).take k ∧
    (c.pullUpTo F k).2.1 = decide ((c.remaining F).length < k) ∧
    (c.pullUpTo F k).2.2.remaining F = (c.remaining F).drop k := by
  induction k generalizing c with
  | zero => simp [pullUpTo]
  | succ k ih =>
    rw [pullUpTo]
    cases h : c.remaining F with
    | nil =>
      rw [pull?_of_done hF h]
      simp [remaining]
    | cons n rest =>
      obtain ⟨c', hp, rfl⟩ := pull?_of_cons hF h
      obtain ⟨hns, hdone, hrest⟩ := ih c'
      rw [hp]
      refine ⟨?_, ?_, ?_⟩
      · show n :: _ = _
        rw [hns, List.take_succ_cons]
      · show (c'.pullUpTo F k).2.1 = _
        rw [hdone, List.length_cons]
        exact decide_eq_decide.2 (by omega)
      · exact hrest

/-- The answers to requests for so many nodes each, one after the other. -/
def serve (F : Forest) : List Nat → Cursor → List (List NodeId × Bool)
  | [], _ => []
  | k :: requests, c =>
    let (ns, done, c) := c.pullUpTo F k
    (ns, done) :: serve F requests c

/-- A cursor gives the nodes of a list: however many are asked for in however many requests, those
given are the first ones, and the end has been met once more than all of them were asked for. -/
def Gives (F : Forest) (c : Cursor) (ns : List NodeId) : Prop :=
  ∀ requests : List Nat, (c.serve F requests).flatMap Prod.fst = ns.take requests.sum ∧
    ((c.serve F requests).any Prod.snd = true ↔ ns.length < requests.sum)

theorem gives_remaining (hF : F.WellFormed) (c : Cursor) : c.Gives F (c.remaining F) := by
  intro requests
  induction requests generalizing c with
  | nil => simp [serve]
  | cons k requests ih =>
    obtain ⟨hns, hdone, hrest⟩ := pullUpTo_follows hF k c
    obtain ⟨ihns, ihdone⟩ := ih (c.pullUpTo F k).2.2
    rw [serve, List.sum_cons]
    refine ⟨?_, ?_⟩
    · rw [List.flatMap_cons, ihns, hns, hrest, List.take_add]
    · rw [List.any_cons, Bool.or_eq_true, ihdone, hdone, hrest, decide_eq_true_iff,
        List.length_drop]
      omega

/-- What a cursor gives, in whatever requests, is what remains of it. -/
theorem gives_iff (hF : F.WellFormed) {c : Cursor} {ns : List NodeId} :
    c.Gives F ns ↔ c.remaining F = ns := by
  constructor
  · intro h
    have htake := (gives_remaining hF c [ns.length + (c.remaining F).length]).1.symm.trans (h _).1
    rwa [List.sum_singleton, List.take_of_length_le (by omega),
      List.take_of_length_le (by omega)] at htake
  · rintro rfl
    exact gives_remaining hF c

end TreeQuery.Cursor
