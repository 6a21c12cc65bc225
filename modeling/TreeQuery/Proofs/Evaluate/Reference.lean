import TreeQuery.Proofs.Evaluate.Literals
import TreeQuery.Proofs.Evaluate.Selection

namespace TreeQuery

def EvalError.atLimit (limit : Nat) : EvalError → EvalError
  | tooDeep _ => tooDeep limit
  | err => err

namespace Evaluator

variable {E : Evaluator} {F : Forest}

def limited (E : Evaluator) (limit : Nat) : Evaluator := { E with maxDepth := limit }

/-- What an entity is replaced by if inner expressions are evaluated by `evaluate`. -/
def replacement (F : Forest) (evaluate : Expression → NodeId → Except EvalError Match)
    (convert : Option String) (x : Entity) : Except EvalError (List Entity) :=
  match reference? F x with
  | none => .ok [x]
  | some text => do
    let inner ← compileAt F (some x.node) text
    return (← evaluate inner x.node).entities.map (reconvert convert)

theorem expand_eq (F : Forest) (evaluate : Expression → NodeId → Except EvalError Match)
    (m : Match) : expand F evaluate m = (m.entities.mapM (replacement F evaluate m.convert)).map
      fun parts => { m with entities := parts.flatten } := by
  have hexpand : expand F evaluate m = (do
      let parts ← m.entities.mapM (replacement F evaluate m.convert)
      return { m with entities := parts.flatten }) := rfl
  rw [hexpand]
  cases m.entities.mapM (replacement F evaluate m.convert) <;> rfl

theorem replacement_mapError {evaluate evaluate' : Expression → NodeId → Except EvalError Match}
    {limit : Nat} (h : ∀ e n, evaluate' e n = (evaluate e n).mapError (·.atLimit limit))
    (convert : Option String) (x : Entity) : replacement F evaluate' convert x =
      (replacement F evaluate convert x).mapError (·.atLimit limit) := by
  rw [replacement, replacement]
  cases reference? F x with
  | none => rfl
  | some text =>
    dsimp only
    rw [compileAt]
    cases Expression.compile text with
    | error error => rfl
    | ok inner =>
      simp only [bind, Except.bind, h]
      cases evaluate inner x.node <;> rfl

theorem replacement_of_constant {evaluate : Expression → NodeId → Except EvalError Match}
    {convert : Option String} {x : Entity} (h : reference? F x = none) :
    replacement F evaluate convert x = .ok [x] := by
  rw [replacement, h]

/-- Without entities that are expressions there is nothing to expand. -/
theorem expand_of_constants {evaluate : Expression → NodeId → Except EvalError Match} {m : Match}
    (h : ∀ x ∈ m.entities, reference? F x = none) : expand F evaluate m = .ok m := by
  have hall : List.Forall₂ (fun x part => replacement F evaluate m.convert x = .ok part)
      m.entities (m.entities.map fun x => [x]) := by
    rw [List.forall₂_map_right_iff, List.forall₂_same]
    exact fun x hx => replacement_of_constant (h x hx)
  rw [expand_eq, mapM_eq_ok_iff.2 hall]
  show Except.ok (Match.mk m.kind m.convert (m.entities.map fun x => [x]).flatten) = _
  rw [← List.flatMap_def, List.flatMap_singleton']

theorem resolve_limited (E : Evaluator) (F : Forest) (limit : Nat) (chain : Chain Literal) :
    (E.limited limit).resolve F chain = E.resolve F chain := rfl

theorem expand_mapError {evaluate evaluate' : Expression → NodeId → Except EvalError Match}
    {limit : Nat} (h : ∀ e n, evaluate' e n = (evaluate e n).mapError (·.atLimit limit))
    (m : Match) : expand F evaluate' m = (expand F evaluate m).mapError (·.atLimit limit) := by
  rw [expand_eq, expand_eq, mapM_mapError (replacement_mapError h m.convert)]
  cases m.entities.mapM (replacement F evaluate m.convert) <;> rfl

/-- With as many levels left, an evaluation depends on the limit only in the error that reports
it. -/
theorem evaluateWith_limited (E : Evaluator) (F : Forest) (limit limit' budget : Nat)
    (e : Expression) (n : NodeId) :
    (E.limited limit').evaluateWith F budget e n =
      ((E.limited limit).evaluateWith F budget e n).mapError (·.atLimit limit') := by
  induction budget generalizing e n with
  | zero => rfl
  | succ budget ih =>
    rw [evaluateWith, evaluateWith, resolve_limited, resolve_limited]
    cases hc : E.resolve F e.chain with
    | error err =>
      -- a literal does not fail at the limit, so its error is kept
      obtain ⟨error, rfl⟩ := exists_of_resolve_error hc
      rfl
    | ok chain =>
      cases he : e.referenced with
      | false => rfl
      | true => exact expand_mapError ih _

/-- What an entity stands for: itself, or what the expression that it is gives by itself with a
limit, read with the conversion of the outer expression. -/
def standsFor (E : Evaluator) (F : Forest) (limit : Nat) (convert : Option String) (x : Entity) :
    Except EvalError (List Entity) :=
  match reference? F x with
  | none => .ok [x]
  | some text =>
    match Expression.compile text with
    | .error error => .error (.malformed (some (F.describe x.node)) error)
    | .ok inner =>
      match (E.limited limit).evaluate F inner x.node with
      | .error err => .error (err.atLimit (limit + 1))
      | .ok m => .ok (m.entities.map (reconvert convert))

theorem replacement_eq_standsFor (E : Evaluator) (F : Forest) (limit : Nat)
    (convert : Option String) (x : Entity) :
    replacement F ((E.limited (limit + 1)).evaluateWith F (limit + 1)) convert x =
      E.standsFor F limit convert x := by
  rw [replacement, standsFor]
  cases reference? F x with
  | none => rfl
  | some text =>
    dsimp only
    rw [compileAt]
    cases Expression.compile text with
    | error error => rfl
    | ok inner =>
      have hshift := E.evaluateWith_limited F limit (limit + 1) (limit + 1) inner x.node
      simp only [bind, Except.bind, hshift]
      show _ = match (E.limited limit).evaluateWith F (limit + 1) inner x.node with
        | .error err => _
        | .ok m => _
      cases (E.limited limit).evaluateWith F (limit + 1) inner x.node <;> rfl

/-- Without a level left, an expression is compiled but not evaluated. -/
theorem replacement_of_no_level {x : Entity} {text : String} (h : reference? F x = some text)
    (convert : Option String) : replacement F ((E.limited 0).evaluateWith F 0) convert x =
      .error (match Expression.compile text with
        | .error error => .malformed (some (F.describe x.node)) error
        | .ok _ => .tooDeep 0) := by
  rw [replacement, h]
  dsimp only
  rw [compileAt]
  cases Expression.compile text <;> rfl

def unexpanded (F : Forest) (e : Expression) (chain : Chain Value) (n : NodeId) : Match :=
  Match.ofNodes e.kind e.convert ((chain.cursor F (.list [n])).drain F)

section Referenced
variable {e : Expression} {chain : Chain Value} (he : e.referenced = true)
  (hc : E.resolve F e.chain = .ok chain)
include he hc

theorem evaluate_eq_expand (limit : Nat) (n : NodeId) : (E.limited limit).evaluate F e n =
    expand F ((E.limited limit).evaluateWith F limit) (unexpanded F e chain n) := by
  rw [evaluate, budget, evaluateWith, resolve_limited, hc]
  simp only [bind, Except.bind, he, if_true]
  rfl

/-- With a level left, each entity is replaced by what it stands for. -/
theorem evaluate_succ_eq (limit : Nat) (n : NodeId) : (E.limited (limit + 1)).evaluate F e n =
    ((unexpanded F e chain n).entities.mapM (E.standsFor F limit e.convert)).map
      fun parts => ⟨e.kind, e.convert, parts.flatten⟩ := by
  rw [evaluate_eq_expand he hc, expand_eq]
  have hconvert : (unexpanded F e chain n).convert = e.convert := rfl
  rw [hconvert, funext (E.replacement_eq_standsFor F limit e.convert)]
  rfl

theorem evaluate_succ_eq_ok_iff {limit : Nat} {n : NodeId} {m : Match} :
    (E.limited (limit + 1)).evaluate F e n = .ok m ↔
      m.kind = e.kind ∧ m.convert = e.convert ∧ ∃ parts,
        List.Forall₂ (fun x part => E.standsFor F limit e.convert x = .ok part)
          (unexpanded F e chain n).entities parts ∧ m.entities = parts.flatten := by
  rw [evaluate_succ_eq he hc]
  constructor
  · intro h
    cases hmap : (unexpanded F e chain n).entities.mapM (E.standsFor F limit e.convert) with
    | error err => rw [hmap] at h; exact absurd h nofun
    | ok parts =>
      rw [hmap] at h
      obtain rfl := Except.ok.inj h
      exact ⟨rfl, rfl, parts, mapM_eq_ok_iff.1 hmap, rfl⟩
  · rintro ⟨hkind, hconvert, parts, hall, hentities⟩
    rw [mapM_eq_ok_iff.2 hall, ← hkind, ← hconvert]
    show Except.ok (Match.mk m.kind m.convert parts.flatten) = _
    rw [← hentities]

theorem evaluate_succ_eq_error_iff {limit : Nat} {n : NodeId} {err : EvalError} :
    (E.limited (limit + 1)).evaluate F e n = .error err ↔
      ∃ before x after, (unexpanded F e chain n).entities = before ++ x :: after ∧
        (∀ b ∈ before, ∃ part, E.standsFor F limit e.convert b = .ok part) ∧
        E.standsFor F limit e.convert x = .error err := by
  rw [evaluate_succ_eq he hc, ← mapM_eq_error_iff]
  cases (unexpanded F e chain n).entities.mapM (E.standsFor F limit e.convert) with
  | error err' =>
    exact ⟨fun h => congrArg _ (Except.error.inj h), fun h => congrArg _ (Except.error.inj h)⟩
  | ok parts => exact ⟨nofun, nofun⟩

theorem evaluate_zero_of_constants {n : NodeId}
    (h : ∀ x ∈ (unexpanded F e chain n).entities, reference? F x = none) :
    (E.limited 0).evaluate F e n = .ok (unexpanded F e chain n) := by
  rw [evaluate_eq_expand he hc, expand_of_constants h]

/-- Without a level left, the first entity that is an expression decides. -/
theorem evaluate_zero_of_reference {n : NodeId} {before after : List Entity} {x : Entity}
    {text : String} (hsplit : (unexpanded F e chain n).entities = before ++ x :: after)
    (hbefore : ∀ b ∈ before, reference? F b = none) (hx : reference? F x = some text) :
    (E.limited 0).evaluate F e n = .error (match Expression.compile text with
      | .error error => .malformed (some (F.describe x.node)) error
      | .ok _ => .tooDeep 0) := by
  have hfirst := mapM_eq_error_iff.2 ⟨before, x, after, hsplit,
    fun b hb => ⟨[b], replacement_of_constant (hbefore b hb)⟩,
    replacement_of_no_level (E := E) hx e.convert⟩
  rw [evaluate_eq_expand he hc, expand_eq]
  show ((unexpanded F e chain n).entities.mapM
    (replacement F ((E.limited 0).evaluateWith F 0) e.convert)).map _ = _
  rw [hfirst]
  rfl

end Referenced

/-- A referenced expression gives what the entities of the same expression without reference stand
for, one after the other, or fails as the first of them that fails; each stands for what its text
gives by itself with one level less. With no level left, the first that is an expression fails. -/
theorem evaluate_referenced {e : Expression} (he : e.referenced = true) {chain : Chain Value}
    (hc : E.resolve F e.chain = .ok chain) (n : NodeId) :
    ∃ base, E.evaluate F { e with referenced := false } n = .ok base ∧
      (∀ limit m, (E.limited (limit + 1)).evaluate F e n = .ok m ↔
        m.kind = e.kind ∧ m.convert = e.convert ∧ ∃ parts,
          List.Forall₂ (fun x part => E.standsFor F limit e.convert x = .ok part)
            base.entities parts ∧ m.entities = parts.flatten) ∧
      (∀ limit err, (E.limited (limit + 1)).evaluate F e n = .error err ↔
        ∃ before x after, base.entities = before ++ x :: after ∧
          (∀ b ∈ before, ∃ part, E.standsFor F limit e.convert b = .ok part) ∧
          E.standsFor F limit e.convert x = .error err) ∧
      ((∀ x ∈ base.entities, reference? F x = none) → (E.limited 0).evaluate F e n = .ok base) ∧
      ∀ before x after text, base.entities = before ++ x :: after →
        (∀ b ∈ before, reference? F b = none) → reference? F x = some text →
        (E.limited 0).evaluate F e n = .error (match Expression.compile text with
          | .error error => .malformed (some (F.describe x.node)) error
          | .ok _ => .tooDeep 0) := by
  -- the entities before expansion are those of the expression without reference
  have hplain : E.evaluate F { e with referenced := false } n = .ok (unexpanded F e chain n) :=
    evaluate_plain rfl hc
  refine ⟨unexpanded F e chain n, hplain, ?_, ?_, evaluate_zero_of_constants he hc, ?_⟩
  · exact fun limit m => evaluate_succ_eq_ok_iff he hc
  · exact fun limit err => evaluate_succ_eq_error_iff he hc
  · exact fun before x after text => evaluate_zero_of_reference he hc

/-- A child that leads back to its parent and one that is a constant. -/
theorem evaluate_referenced_child :
    let F := [Edit.create "r" (.integer 1), .create "a" (.string "@/.?value"),
      .create "b" (.integer 2), .add ⟨0⟩ ⟨1⟩, .add ⟨0⟩ ⟨2⟩].foldl Edit.run {}
    let e := ⟨"@@/*?value", true, ⟨[.single .children], []⟩, .value, none⟩
    (limited {} 1).evaluate F e ⟨0⟩ =
      .ok ⟨.value, none, [⟨⟨0⟩, .value, none, 1⟩, ⟨⟨2⟩, .value, none, 2⟩]⟩ ∧
    (limited {} 0).evaluate F e ⟨0⟩ = .error (.tooDeep 0) := by
  intro F e
  obtain ⟨base, hbase, hok, -, -, hzero⟩ :=
    evaluate_referenced (E := {}) (F := F) (e := e) rfl rfl ⟨0⟩
  have hplain : Evaluator.evaluate {} F { e with referenced := false } ⟨0⟩ =
    .ok ⟨.value, none, [⟨⟨1⟩, .value, none, 2⟩, ⟨⟨2⟩, .value, none, 2⟩]⟩ := rfl
  obtain rfl := Except.ok.inj (hbase.symm.trans hplain)
  refine ⟨(hok 0 _).2 ⟨rfl, rfl, [[⟨⟨0⟩, .value, none, 1⟩], [⟨⟨2⟩, .value, none, 2⟩]], ?_, rfl⟩, ?_⟩
  · exact .cons rfl (.cons rfl .nil)
  · exact hzero [] _ _ "@/.?value" rfl nofun rfl

end Evaluator
end TreeQuery
