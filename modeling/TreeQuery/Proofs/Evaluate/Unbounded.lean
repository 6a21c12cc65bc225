import Mathlib.Logic.Function.Iterate
import TreeQuery.Evaluate.Resolution
import TreeQuery.Proofs.Select.Pull

namespace TreeQuery

variable {α β : Type} {F : Forest}

/-- A computation that nothing bounds: `none` if it goes on for ever. -/
abbrev Unbounded (α : Type) := ExceptT EvalError Option α

namespace Unbounded

/-- The results of a recursion whose calls may be nested as deeply as they need to be. -/
noncomputable def settled (call : (α → Option β) → α → Option β) (a : α) : Option β :=
  open Classical in
  if h : ∃ b k, ∀ n, k ≤ n → call^[n] (fun _ => none) a = some b then some h.choose else none

theorem settled_eq_some_iff {call : (α → Option β) → α → Option β} {a : α} {b : β} :
    settled call a = some b ↔ ∃ k, ∀ n, k ≤ n → call^[n] (fun _ => none) a = some b := by
  rw [settled]
  constructor
  · intro hb
    split at hb
    · next hsettles =>
      obtain rfl := Option.some.inj hb
      exact hsettles.choose_spec
    · cases hb
  · rintro ⟨k, hk⟩
    have hsettles : ∃ b k, ∀ n, k ≤ n → call^[n] (fun _ => none) a = some b := ⟨b, k, hk⟩
    rw [dif_pos hsettles]
    obtain ⟨l, hl⟩ := hsettles.choose_spec
    exact (hl (max k l) (Nat.le_max_right k l)).symm.trans (hk (max k l) (Nat.le_max_left k l))

/-- A computation that ends with a result. -/
def ends (r : Except EvalError α) : Unbounded α := ExceptT.mk (some r)

theorem bind_eq_ends {u : Unbounded α} {r : Except EvalError α} {v : α → Unbounded β}
    {f : α → Except EvalError β} (hu : u = ends r) (hv : ∀ a, v a = ends (f a)) :
    u >>= v = ends (r >>= f) := by
  obtain rfl : v = fun a => ends (f a) := funext hv
  subst hu
  cases r <;> rfl

theorem map_eq_ends {u : Unbounded α} {r : Except EvalError α} (f : α → β) (hu : u = ends r) :
    f <$> u = ends (f <$> r) := by
  subst hu
  cases r <;> rfl

theorem mapM_eq_ends {v : α → Unbounded β} {f : α → Except EvalError β}
    (hv : ∀ a, v a = ends (f a)) (xs : List α) : xs.mapM v = ends (xs.mapM f) := by
  induction xs with
  | nil => rfl
  | cons x xs ih =>
    rw [List.mapM_cons, List.mapM_cons]
    exact bind_eq_ends (hv x) fun y => bind_eq_ends ih fun ys => rfl

end Unbounded

open Unbounded

/-- The nodes from one step of a cursor on. -/
def Cursor.exhaustCall (F : Forest) (exhaust : Cursor → Option (List NodeId)) (c : Cursor) :
    Option (List NodeId) :=
  match c.advance F with
  | .done => some []
  | .idle c => exhaust c
  | .yield n c => (n :: ·) <$> exhaust c

noncomputable def Cursor.exhaust (F : Forest) : Cursor → Option (List NodeId) :=
  settled (exhaustCall F)

theorem Cursor.exhaustCall_iterate (hF : F.WellFormed) {k : Nat} {c : Cursor}
    (hk : c.steps F < k) : (exhaustCall F)^[k] (fun _ => none) c = some (c.remaining F) := by
  induction k generalizing c with
  | zero => exact absurd hk (Nat.not_lt_zero _)
  | succ k ih =>
    have hc := advance_follows hF c
    rw [Function.iterate_succ_apply', exhaustCall]
    cases he : c.advance F with
    | done =>
      rw [he] at hc
      exact congrArg some hc.symm
    | idle c' =>
      rw [he] at hc
      rw [← hc.1]
      exact ih (Nat.lt_of_lt_of_le hc.2 (Nat.le_of_lt_succ hk))
    | yield n c' =>
      rw [he] at hc
      rw [hc.1]
      dsimp only
      rw [ih (Nat.lt_of_lt_of_le hc.2 (Nat.le_of_lt_succ hk))]
      rfl

theorem Cursor.exhaust_eq_drain (hF : F.WellFormed) (c : Cursor) :
    c.exhaust F = some (c.drain F) := by
  rw [drain_eq_remaining hF]
  exact settled_eq_some_iff.2 ⟨c.steps F + 1, fun _ hk => exhaustCall_iterate hF hk⟩

namespace Evaluator

/-- Evaluates an expression that so many others have led to, given what the expressions that it
leads to evaluate to. -/
noncomputable def evaluateCall (E : Evaluator) (F : Forest)
    (evaluate : Nat × Expression × NodeId → Unbounded Match) :
    Nat × Expression × NodeId → Unbounded Match
  | (depth, e, context) =>
    if E.maxDepth < depth then throw (.tooDeep E.maxDepth)
    else do
      let chain ← ends (E.resolve F e.chain)
      let nodes ← ExceptT.lift ((chain.cursor F (.list [context])).exhaust F)
      let found := Match.ofNodes e.kind e.convert nodes
      if e.referenced then do
        let parts ← found.entities.mapM fun x =>
          match reference? F x with
          | none => pure [x]
          | some text => do
            let inner ← ends (compileAt F (some x.node) text)
            let m ← evaluate (depth + 1, inner, x.node)
            return m.entities.map (reconvert found.convert)
        return { found with entities := parts.flatten }
      else return found

noncomputable def evaluateFrom (E : Evaluator) (F : Forest) (depth : Nat) (e : Expression)
    (context : NodeId) : Unbounded Match :=
  settled (E.evaluateCall F) (depth, e, context)

noncomputable def valuesFrom (E : Evaluator) (F : Forest) (depth : Nat) (v : Value) (source : NodeId) :
    Unbounded (List Value) :=
  match v with
  | .null => pure []
  | .string text =>
    if Expression.isLikely text then do
      let e ← ends (compileAt F none text)
      let m ← E.evaluateFrom F depth e source
      if m.kind = .count then return [.integer (Int64.ofNat m.count)] else ends (m.values E F)
    else pure [v]
  | _ => pure [v]

noncomputable def singleFrom (E : Evaluator) (F : Forest) (depth : Nat) (v : Value) (source : NodeId) :
    Unbounded Value := do
  let vs ← E.valuesFrom F depth v source
  ends (E.reduce F vs)

/-- The text that an argument contributes; the expression that it is or leads to is one level down. -/
noncomputable def argumentFrom (E : Evaluator) (F : Forest) (depth : Nat)
    (format : NodeId → NodeId → Unbounded String) (n source : NodeId) : Unbounded String :=
  let evaluated (v : Value) : Unbounded String := do
    let v ← E.singleFrom F (depth + 1) v source
    ends (E.textOf F v)
  match F.isFormatted n, (F.value n).string?.any Expression.isLikely with
  | true, true => do
    let text ← format n source
    evaluated (.string text)
  | true, false => format n source
  | false, true => evaluated (F.value n)
  | false, false => ends (E.textOf F (F.value n))

/-- The text of a template, given those of the templates among its arguments, which are one level
down. -/
noncomputable def formatCall (E : Evaluator) (F : Forest)
    (format : Nat × NodeId × NodeId → Unbounded String) :
    Nat × NodeId × NodeId → Unbounded String
  | (depth, n, source) =>
    if E.maxDepth < depth then throw (.tooDeep E.maxDepth)
    else match F.value n with
      | .string template =>
        if F.isFormatted n then do
          let args ← (F.childrenNamed n "").mapM fun c =>
            E.argumentFrom F (depth + 1) (fun c source => format (depth + 1, c, source)) c
              (if n = source then c else source)
          match Template.fill args template with
          | .ok text => return text
          | .error fault => throw (.template template fault)
        else throw (.template template (.noArguments (F.describe n)))
      | v => throw (.template (v.text F) .notText)

noncomputable def formatFrom (E : Evaluator) (F : Forest) (depth : Nat) (n source : NodeId) :
    Unbounded String :=
  settled (E.formatCall F) (depth, n, source)

noncomputable def templateFrom (E : Evaluator) (F : Forest) (n source : NodeId) : Unbounded Value :=
  if F.isFormatted n then .string <$> E.formatFrom F 0 n source else pure (F.value n)

noncomputable def nodeValuesFrom (E : Evaluator) (F : Forest) (n source : NodeId) : Unbounded (List Value) :=
  if (F.value n).isNull then pure ((F.children n).map F.value)
  else do
    let v ← E.templateFrom F n source
    E.valuesFrom F 0 v source

noncomputable def streamFrom (E : Evaluator) (F : Forest) (e : Expression) (context : NodeId) :
    Unbounded Cursor :=
  if e.referenced then do
    let m ← E.evaluateFrom F 0 e context
    return .list m.nodes
  else do
    let chain ← ends (E.resolve F e.chain)
    return chain.cursor F (.list [context])

section Ends
variable (hF : F.WellFormed) (E : Evaluator)
include hF

theorem evaluateCall_iterate {k depth : Nat} (hk : E.budget - depth < k) (e : Expression)
    (n : NodeId) : (E.evaluateCall F)^[k] (fun _ => none) (depth, e, n) =
      ends (E.evaluateWith F (E.budget - depth) e n) := by
  -- each inner call has a level less, and so needs one nested call less
  induction k generalizing depth e n with
  | zero => exact absurd hk (Nat.not_lt_zero _)
  | succ k ih =>
    rw [Function.iterate_succ_apply', evaluateCall]
    cases hleft : E.budget - depth with
    | zero =>
      rw [if_pos (by rw [budget] at hleft; omega)]
      rfl
    | succ left =>
      have hinner (e' : Expression) (m : NodeId) :
          (E.evaluateCall F)^[k] (fun _ => none) (depth + 1, e', m) =
            ends (E.evaluateWith F left e' m) := by
        rw [ih (by omega), show E.budget - (depth + 1) = left by omega]
      rw [if_neg (by rw [budget] at hleft; omega), evaluateWith]
      refine bind_eq_ends rfl fun chain => ?_
      rw [Cursor.exhaust_eq_drain hF]
      cases e.referenced with
      | false => rfl
      | true =>
        refine bind_eq_ends (mapM_eq_ends (fun x => ?_) _) fun parts => rfl
        cases reference? F x with
        | none => rfl
        | some text =>
          exact bind_eq_ends rfl fun inner => bind_eq_ends (hinner inner x.node) fun m => rfl

theorem evaluateFrom_eq (depth : Nat) (e : Expression) (n : NodeId) :
    E.evaluateFrom F depth e n = ends (E.evaluateWith F (E.budget - depth) e n) :=
  settled_eq_some_iff.2 ⟨E.budget - depth + 1, fun _ hk => evaluateCall_iterate hF E hk e n⟩

theorem valuesFrom_eq (depth : Nat) (v : Value) (source : NodeId) :
    E.valuesFrom F depth v source = ends (E.valuesWith F (E.budget - depth) v source) := by
  cases v with
  | string text =>
    rw [valuesFrom, valuesWith]
    split
    · refine bind_eq_ends rfl fun e => bind_eq_ends (evaluateFrom_eq hF E depth e source) fun m => ?_
      split <;> rfl
    · rfl
  | _ => rfl

theorem singleFrom_eq (depth : Nat) (v : Value) (source : NodeId) :
    E.singleFrom F depth v source = ends (E.singleWith F (E.budget - depth) v source) :=
  bind_eq_ends (valuesFrom_eq hF E depth v source) fun _ => rfl

theorem argumentFrom_eq (depth : Nat) {format : NodeId → NodeId → Unbounded String}
    {format' : NodeId → NodeId → Except EvalError String}
    (hf : ∀ n source, format n source = ends (format' n source)) (n source : NodeId) :
    E.argumentFrom F depth format n source =
      ends (E.argumentWith F (E.budget - depth) format' n source) := by
  have hsingle (v : Value) : E.singleFrom F (depth + 1) v source =
      ends (E.singleWith F (E.budget - depth - 1) v source) :=
    singleFrom_eq hF E (depth + 1) v source
  rw [argumentFrom, argumentWith]
  cases F.isFormatted n with
  | true =>
    cases (F.value n).string?.any Expression.isLikely with
    | true => exact bind_eq_ends (hf n source) fun text => bind_eq_ends (hsingle _) fun _ => rfl
    | false => exact hf n source
  | false =>
    cases (F.value n).string?.any Expression.isLikely with
    | true => exact bind_eq_ends (hsingle _) fun _ => rfl
    | false => rfl

theorem formatCall_iterate {k depth : Nat} (hk : E.budget - depth < k) (n source : NodeId) :
    (E.formatCall F)^[k] (fun _ => none) (depth, n, source) =
      ends (E.formatWith F (E.budget - depth) n source) := by
  induction k generalizing depth n source with
  | zero => exact absurd hk (Nat.not_lt_zero _)
  | succ k ih =>
    rw [Function.iterate_succ_apply', formatCall]
    cases hleft : E.budget - depth with
    | zero =>
      rw [if_pos (by rw [budget] at hleft; omega)]
      rfl
    | succ left =>
      have hbelow : E.budget - (depth + 1) = left := by omega
      have hformat (m source : NodeId) :
          (E.formatCall F)^[k] (fun _ => none) (depth + 1, m, source) =
            ends (E.formatWith F left m source) := by
        rw [ih (by omega), hbelow]
      rw [if_neg (by rw [budget] at hleft; omega), formatWith]
      cases F.value n with
      | string template =>
        dsimp only
        split
        · refine bind_eq_ends (mapM_eq_ends (fun c => ?_) _) fun args => ?_
          · rw [argumentFrom_eq hF E (depth + 1) hformat, hbelow]
          · cases Template.fill args template <;> rfl
        · rfl
      | _ => rfl

theorem formatFrom_eq (depth : Nat) (n source : NodeId) :
    E.formatFrom F depth n source = ends (E.formatWith F (E.budget - depth) n source) :=
  settled_eq_some_iff.2 ⟨E.budget - depth + 1, fun _ hk => formatCall_iterate hF E hk n source⟩

theorem templateFrom_eq (n source : NodeId) :
    E.templateFrom F n source = ends (E.templateWith F E.budget n source) := by
  rw [templateFrom, templateWith]
  split
  · exact map_eq_ends _ (formatFrom_eq hF E 0 n source)
  · rfl

theorem nodeValuesFrom_eq (n source : NodeId) :
    E.nodeValuesFrom F n source = ends (E.nodeValues F n source) := by
  rw [nodeValuesFrom, nodeValues]
  split
  · rfl
  · exact bind_eq_ends (templateFrom_eq hF E n source) fun v => valuesFrom_eq hF E 0 v source

theorem streamFrom_eq (e : Expression) (context : NodeId) :
    E.streamFrom F e context = ends (E.stream F e context) := by
  rw [streamFrom, stream]
  split
  · exact bind_eq_ends (evaluateFrom_eq hF E 0 e context) fun m => rfl
  · exact bind_eq_ends rfl fun chain => rfl

end Ends

end Evaluator

/-- What an evaluator can be asked. -/
inductive Query
  | evaluate (e : Expression) (context : NodeId)
  | evaluateText (text : String) (context : NodeId)
  | stream (e : Expression) (context : NodeId)
  | count (e : Expression) (context : NodeId)
  | evaluateNode (n source : NodeId)
  | formatNode (n source : NodeId)
  | single (v : Value) (source : NodeId)
  | singleAs (v : Value) (source : NodeId) (typeName : String)
  | singleNode (n source : NodeId)
  | values (v : Value) (source : NodeId)

inductive Answer
  | found (m : Match)
  | cursor (c : Cursor)
  | number (k : Nat)
  | text (s : String)
  | value (v : Value)
  | values (vs : List Value)

namespace Query

open Evaluator

def run (E : Evaluator) (F : Forest) : Query → Except EvalError Answer
  | evaluate e context => .found <$> E.evaluate F e context
  | evaluateText text context => .found <$> E.evaluateText F text context
  | stream e context => .cursor <$> E.stream F e context
  | count e context => .number <$> E.count F e context
  | evaluateNode n source => .found <$> E.evaluateNode F n source
  | formatNode n source => .text <$> E.formatNode F n source
  | single v source => .value <$> E.single F v source
  | singleAs v source typeName => .value <$> E.singleAs F v source typeName
  | singleNode n source => .value <$> E.singleNode F n source
  | values v source => .values <$> E.values F v source

noncomputable def runUnbounded (E : Evaluator) (F : Forest) : Query → Unbounded Answer
  | evaluate e context => .found <$> E.evaluateFrom F 0 e context
  | evaluateText text context => .found <$> do
    let e ← ends (compileAt F none text)
    E.evaluateFrom F 0 e context
  | stream e context => .cursor <$> E.streamFrom F e context
  | count e context => .number <$> do
    let c ← E.streamFrom F e context
    let nodes ← ExceptT.lift (c.exhaust F)
    return nodes.length
  | evaluateNode n source => .found <$> do
    let v ← E.templateFrom F n source
    match v.string?.filter Expression.isLikely with
    | some text => do
      let e ← ends (compileAt F (some n) text)
      E.evaluateFrom F 0 e source
    | none => throw (.notExpression (F.describe n))
  | formatNode n source => .text <$> E.formatFrom F 0 n source
  | single v source => .value <$> E.singleFrom F 0 v source
  | singleAs v source typeName => .value <$> do
    let v ← E.singleFrom F 0 v source
    ends (E.convertTo F typeName v)
  | singleNode n source => .value <$> do
    let vs ← E.nodeValuesFrom F n source
    ends (E.reduce F vs)
  | values v source => .values <$> E.valuesFrom F 0 v source

/-- Every answer comes to its end. -/
theorem runUnbounded_eq (hF : F.WellFormed) (E : Evaluator) (q : Query) :
    q.runUnbounded E F = some (q.run E F) := by
  show _ = ends (q.run E F)
  have hevaluate (e : Expression) (n : NodeId) :
      E.evaluateFrom F 0 e n = ends (E.evaluate F e n) := evaluateFrom_eq hF E 0 e n
  cases q with
  | evaluate e context => exact map_eq_ends _ (hevaluate e context)
  | evaluateText text context =>
    exact map_eq_ends _ (bind_eq_ends rfl fun e => hevaluate e context)
  | stream e context => exact map_eq_ends _ (streamFrom_eq hF E e context)
  | count e context =>
    refine map_eq_ends _ (bind_eq_ends (streamFrom_eq hF E e context) fun c => ?_)
    rw [Cursor.exhaust_eq_drain hF]
    rfl
  | evaluateNode n source =>
    refine map_eq_ends _ (bind_eq_ends (templateFrom_eq hF E n source) fun v => ?_)
    cases v.string?.filter Expression.isLikely with
    | some text => exact bind_eq_ends rfl fun e => hevaluate e source
    | none => rfl
  | formatNode n source => exact map_eq_ends _ (formatFrom_eq hF E 0 n source)
  | single v source => exact map_eq_ends _ (singleFrom_eq hF E 0 v source)
  | singleAs v source typeName =>
    exact map_eq_ends _ (bind_eq_ends (singleFrom_eq hF E 0 v source) fun v => rfl)
  | singleNode n source =>
    exact map_eq_ends _ (bind_eq_ends (nodeValuesFrom_eq hF E n source) fun vs => rfl)
  | values v source => exact map_eq_ends _ (valuesFrom_eq hF E 0 v source)

end Query
end TreeQuery
