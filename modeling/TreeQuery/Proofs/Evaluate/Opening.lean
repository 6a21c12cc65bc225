import TreeQuery.Proofs.Evaluate.Failure
import TreeQuery.Proofs.Evaluate.Selection

namespace TreeQuery

variable {α β ε : Type} {f : α → Except ε β} {F G : Forest}

mutual
/-- Whether a step is a single one, or a group without operators at any depth. -/
def Step.isPlain : Step α → Bool
  | .single _ => true
  | .group c => c.isPlain

/-- Whether neither a chain nor any group in it has operators. -/
def Chain.isPlain : Chain α → Bool
  | ⟨steps, operands⟩ => operands.isEmpty && Step.allPlain steps

def Step.allPlain : List (Step α) → Bool
  | [] => true
  | s :: rest => s.isPlain && Step.allPlain rest
end

/-- Whether no group of a chain has operators at its own level; the chain itself may have some. -/
def Chain.hasPlainGroups (c : Chain α) : Bool :=
  Step.allPlain c.steps && c.operands.all fun o => Step.allPlain o.steps

theorem Operand.isEmpty_of_mapAllM {operands : List (Operand α)} {os : List (Operand β)}
    (h : Operand.mapAllM f operands = .ok os) : os.isEmpty = operands.isEmpty := by
  cases operands with
  | nil =>
    obtain rfl := Except.ok.inj h
    rfl
  | cons o rest =>
    obtain ⟨op, steps⟩ := o
    obtain ⟨ts, -, h⟩ := ok_of_bind h
    obtain ⟨ps, -, h⟩ := ok_of_bind h
    obtain rfl := Except.ok.inj h
    rfl

-- Replacing literals leaves the groups as they are.
mutual
theorem Step.isPlain_of_mapM (s : Step α) {t : Step β} (h : s.mapM f = .ok t) :
    t.isPlain = s.isPlain := by
  cases s with
  | single s =>
    obtain ⟨t', -, rfl⟩ := ok_of_map h
    rfl
  | group c =>
    obtain ⟨d, hd, rfl⟩ := ok_of_map h
    exact Chain.isPlain_of_mapM c hd

theorem Chain.isPlain_of_mapM (c : Chain α) {d : Chain β} (h : c.mapM f = .ok d) :
    d.isPlain = c.isPlain := by
  obtain ⟨steps, operands⟩ := c
  obtain ⟨ss, hss, h⟩ := ok_of_bind h
  obtain ⟨os, hos, h⟩ := ok_of_bind h
  obtain rfl := Except.ok.inj h
  rw [Chain.isPlain, Chain.isPlain, Operand.isEmpty_of_mapAllM hos,
    Step.allPlain_of_mapAllM steps hss]

theorem Step.allPlain_of_mapAllM (steps : List (Step α)) {ss : List (Step β)}
    (h : Step.mapAllM f steps = .ok ss) : Step.allPlain ss = Step.allPlain steps := by
  cases steps with
  | nil =>
    obtain rfl := Except.ok.inj h
    rfl
  | cons s rest =>
    obtain ⟨t, ht, h⟩ := ok_of_bind h
    obtain ⟨ts, hts, h⟩ := ok_of_bind h
    obtain rfl := Except.ok.inj h
    rw [Step.allPlain, Step.allPlain, Step.isPlain_of_mapM s ht, Step.allPlain_of_mapAllM rest hts]
end

theorem Operand.allPlain_of_mapAllM {operands : List (Operand α)} {os : List (Operand β)}
    (h : Operand.mapAllM f operands = .ok os) :
    (os.all fun o => Step.allPlain o.steps) = operands.all fun o => Step.allPlain o.steps := by
  induction operands generalizing os with
  | nil =>
    obtain rfl := Except.ok.inj h
    rfl
  | cons o rest ih =>
    obtain ⟨op, steps⟩ := o
    obtain ⟨ts, hts, h⟩ := ok_of_bind h
    obtain ⟨ps, hps, h⟩ := ok_of_bind h
    obtain rfl := Except.ok.inj h
    rw [List.all_cons, List.all_cons, ih hps, Step.allPlain_of_mapAllM steps hts]

theorem Chain.hasPlainGroups_of_mapM {c : Chain α} {d : Chain β} (h : c.mapM f = .ok d) :
    d.hasPlainGroups = c.hasPlainGroups := by
  obtain ⟨steps, operands⟩ := c
  obtain ⟨ss, hss, h⟩ := ok_of_bind h
  obtain ⟨os, hos, h⟩ := ok_of_bind h
  obtain rfl := Except.ok.inj h
  rw [hasPlainGroups, hasPlainGroups, Step.allPlain_of_mapAllM steps hss,
    Operand.allPlain_of_mapAllM hos]

-- The cursor of what has no operators is put together from the steps alone.
mutual
theorem Step.cursor_of_isPlain (F G : Forest) (s : Step Value) (hs : s.isPlain = true)
    (source : Cursor) : s.cursor F source = s.cursor G source := by
  cases s with
  | single s => rfl
  | group c => exact Chain.cursor_of_isPlain F G c hs source

theorem Chain.cursor_of_isPlain (F G : Forest) (c : Chain Value) (hc : c.isPlain = true)
    (source : Cursor) : c.cursor F source = c.cursor G source := by
  obtain ⟨steps, operands⟩ := c
  rw [Chain.isPlain, Bool.and_eq_true, List.isEmpty_iff] at hc
  obtain ⟨rfl, hsteps⟩ := hc
  exact Step.cursorAll_of_allPlain F G steps hsteps source

theorem Step.cursorAll_of_allPlain (F G : Forest) (steps : List (Step Value))
    (hsteps : Step.allPlain steps = true) (source : Cursor) :
    Step.cursorAll F steps source = Step.cursorAll G steps source := by
  cases steps with
  | nil => rfl
  | cons s rest =>
    rw [Step.allPlain, Bool.and_eq_true] at hsteps
    rw [Step.cursorAll, Step.cursorAll, Step.cursor_of_isPlain F G s hsteps.1,
      Step.cursorAll_of_allPlain F G rest hsteps.2]
end

theorem Operand.cursorAll_of_allPlain (F G : Forest) (roots : List NodeId)
    {operands : List (Operand Value)}
    (h : (operands.all fun o => Step.allPlain o.steps) = true) (result : Cursor) :
    Operand.cursorAll F roots operands result = Operand.cursorAll G roots operands result := by
  induction operands generalizing result with
  | nil => rfl
  | cons o rest ih =>
    obtain ⟨op, steps⟩ := o
    rw [List.all_cons, Bool.and_eq_true] at h
    rw [Operand.cursorAll, Operand.cursorAll, Step.cursorAll_of_allPlain F G steps h.1, ih h.2]

theorem Cursor.drain_list (F : Forest) (ns : List NodeId) : (list ns).drain F = ns := by
  show collect (advanceWith F (drainTo F 0)) (ns.length + 1) (list ns) = ns
  induction ns with
  | nil => rfl
  | cons n rest ih => exact congrArg (n :: ·) ih

/-- Over a list of nodes, a chain whose groups have no operators opens one cursor in all forests. -/
theorem Chain.cursor_list (F G : Forest) {c : Chain Value} (hc : c.hasPlainGroups = true)
    (ns : List NodeId) : c.cursor F (.list ns) = c.cursor G (.list ns) := by
  obtain ⟨steps, operands⟩ := c
  rw [hasPlainGroups, Bool.and_eq_true] at hc
  cases operands with
  | nil => exact Step.cursorAll_of_allPlain F G steps hc.1 _
  | cons o rest =>
    rw [Chain.cursor, Chain.cursor, Cursor.drain_list, Cursor.drain_list,
      Step.cursorAll_of_allPlain F G steps hc.1]
    · exact Operand.cursorAll_of_allPlain F G ns hc.2 _
    · exact List.cons_ne_nil o rest
    · exact List.cons_ne_nil o rest

namespace Evaluator

variable {E : Evaluator} {e : Expression}

theorem resolve_congr (hE : Converter.IsPure E.convert) (F G : Forest) (chain : Chain Literal) :
    E.resolve F chain = E.resolve G chain := by
  have hliteral : E.literal F = E.literal G := by
    funext l
    cases l with
    | plain text => rfl
    | typed typeName text => rw [literal, literal, convertTo, convertTo, hE F G]
  rw [resolve, resolve, hliteral]

theorem stream_congr (hE : Converter.IsPure E.convert) (he : e.referenced = false)
    (hgroups : e.chain.hasPlainGroups = true) (F G : Forest) (n : NodeId) :
    E.stream F e n = E.stream G e n := by
  cases hc : E.resolve F e.chain with
  | error err =>
    rw [stream_eq_error he hc, stream_eq_error he ((resolve_congr hE G F _).trans hc)]
  | ok chain =>
    rw [stream_plain he hc, stream_plain he ((resolve_congr hE G F _).trans hc)]
    exact congrArg Except.ok
      (Chain.cursor_list F G ((Chain.hasPlainGroups_of_mapM hc).trans hgroups) [n])

/-- A stream of an expression that is not referenced, and no group of which has operators, can be
opened before any run of edits: it gives what the expression selects after them, all at once and in
any schedule of pulls, and it fails as the evaluation after them fails. It is the very stream that
would be opened after them. -/
theorem stream_opened_before_edits (hF : F.Reachable) {edits : List Edit}
    (hedits : F.admits edits = true) (hE : Converter.IsPure E.convert)
    (he : e.referenced = false) (hgroups : e.chain.hasPlainGroups = true) (n : NodeId) :
    let G := edits.foldl Edit.run F
    E.stream F e n = E.stream G e n ∧
    (∀ c, E.stream F e n = .ok c →
      ∃ m, E.evaluate G e n = .ok m ∧ c.drain G = m.nodes ∧ c.Gives G m.nodes) ∧
    ∀ err, E.stream F e n = .error err ↔ E.evaluate G e n = .error err := by
  intro G
  have hG : G.WellFormed := (hF.foldl hedits).wellFormed
  have hsame : E.stream F e n = E.stream G e n := stream_congr hE he hgroups F G n
  refine ⟨hsame, fun c hc => ?_, fun err => ?_⟩
  · rw [hsame] at hc
    cases hresolve : E.resolve G e.chain with
    | error err =>
      rw [stream_eq_error he hresolve] at hc
      exact absurd hc nofun
    | ok chain =>
      obtain rfl := Except.ok.inj ((stream_plain he hresolve).symm.trans hc)
      refine ⟨_, evaluate_plain he hresolve, (Match.nodes_ofNodes _ _ _).symm, ?_⟩
      rw [Match.nodes_ofNodes, Cursor.drain_eq_remaining hG]
      exact Cursor.gives_remaining hG _
  · rw [hsame]
    exact evaluate_eq_error_iff.symm

/-- The children of a root, in a group, or all below it: there are none until the stream is open. -/
theorem stream_opened_before_edits_grown :
    let F := [Edit.create "r" .null, .create "a" .null].foldl Edit.run {}
    let edits := [Edit.add ⟨0⟩ ⟨1⟩, .create "b" .null, .add ⟨1⟩ ⟨2⟩]
    let G := edits.foldl Edit.run F
    let chain := ⟨[.group ⟨[.single .children], []⟩], [⟨.or, [.single .descendants]⟩]⟩
    let e := ⟨"@(/*) | /**?node", false, chain, .node, none⟩
    let c := Cursor.union [] (.children [] (.list [⟨0⟩])) (.descendants [] (.list [⟨0⟩]))
    Expression.compile "@(/*) | /**?node" = .ok e ∧ Evaluator.stream {} F e ⟨0⟩ = .ok c ∧
      c.drain F = [] ∧ c.drain G = [⟨1⟩, ⟨2⟩] := by
  intro F edits G chain e c
  have hF : F.Reachable := Forest.Reachable.empty.foldl (by decide +kernel)
  have hedits : F.admits edits = true := by decide +kernel
  have hc : Evaluator.stream {} F e ⟨0⟩ = .ok c := rfl
  have hm : Evaluator.evaluate {} G e ⟨0⟩ = .ok (Match.ofNodes .node none [⟨1⟩, ⟨2⟩]) := by
    rw [Evaluator.evaluate_plain (e := e) rfl rfl]
    exact congrArg (fun ns => Except.ok (Match.ofNodes .node none ns)) (by decide +kernel)
  obtain ⟨m, hm', hdrain, -⟩ :=
    (stream_opened_before_edits hF hedits isPure_convert rfl rfl ⟨0⟩).2.1 c hc
  refine ⟨?_, hc, by decide +kernel, ?_⟩
  · dsimp only [e, chain]
    rfl
  · rw [hdrain, Except.ok.inj (hm'.symm.trans hm), Match.nodes_ofNodes]

-- A group with operators is read as the stream is opened, when its input is still empty.
example :
    let F := [Edit.create "r" .null, .create "a" .null].foldl Edit.run {}
    let G := (Edit.add ⟨0⟩ ⟨1⟩).run F
    let chain := ⟨[.single .children, .group ⟨[.single .parent], [⟨.or, [.single .next]⟩]⟩], []⟩
    (Chain.cursor F chain (.list [⟨0⟩])).drain G = [] ∧
      (Chain.cursor G chain (.list [⟨0⟩])).drain G = [⟨0⟩] := by
  decide +kernel

end Evaluator
end TreeQuery
