import TreeQuery.Proofs.Evaluate.Reference
import TreeQuery.Proofs.Evaluate.Unbounded

namespace TreeQuery

variable {α β : Type} {F : Forest}

/-- `r` is the result `s`, unless it reports that a limit is met. -/
def CutOff (r s : Except EvalError α) : Prop := (∃ limit, r = .error (.tooDeep limit)) ∨ r = s

namespace CutOff

theorem refl (r : Except EvalError α) : CutOff r r := .inr rfl

theorem eq_of_not_tooDeep {r s : Except EvalError α} (h : CutOff r s)
    (hr : ∀ limit, r ≠ .error (.tooDeep limit)) : r = s :=
  h.resolve_left fun ⟨limit, hlimit⟩ => hr limit hlimit

theorem bind {r s : Except EvalError α} {f g : α → Except EvalError β} (h : CutOff r s)
    (hf : ∀ a, CutOff (f a) (g a)) : CutOff (r >>= f) (s >>= g) := by
  rcases h with ⟨limit, rfl⟩ | rfl
  · exact .inl ⟨limit, rfl⟩
  · cases r with
    | error err => exact .inr rfl
    | ok a => exact hf a

theorem map {r s : Except EvalError α} (f : α → β) (h : CutOff r s) :
    CutOff (f <$> r) (f <$> s) := by
  rcases h with ⟨limit, rfl⟩ | rfl
  · exact .inl ⟨limit, rfl⟩
  · exact .inr rfl

theorem mapM {f g : α → Except EvalError β} (h : ∀ a, CutOff (f a) (g a)) (xs : List α) :
    CutOff (xs.mapM f) (xs.mapM g) := by
  induction xs with
  | nil => exact .refl _
  | cons x xs ih =>
    rw [List.mapM_cons, List.mapM_cons]
    exact (h x).bind fun y => ih.map _

end CutOff

namespace Evaluator

theorem replacement_cutOff {evaluate evaluate' : Expression → NodeId → Except EvalError Match}
    (h : ∀ e n, CutOff (evaluate e n) (evaluate' e n)) (convert : Option String) (x : Entity) :
    CutOff (replacement F evaluate convert x) (replacement F evaluate' convert x) := by
  rw [replacement, replacement]
  cases reference? F x with
  | none => exact .refl _
  | some text => exact (CutOff.refl _).bind fun inner => (h inner x.node).bind fun m => .refl _

theorem joinAfter_limited (E : Evaluator) (F : Forest) (limit : Nat) (afterNode : Bool)
    (vs : List Value) : (E.limited limit).joinAfter F afterNode vs = E.joinAfter F afterNode vs := by
  induction vs generalizing afterNode with
  | nil => rfl
  | cons v vs ih =>
    rw [joinAfter, joinAfter]
    simp only [ih]
    rfl

theorem reduce_cutOff (E : Evaluator) (F : Forest) (limit limit' : Nat) (vs : List Value) :
    CutOff ((E.limited limit).reduce F vs) ((E.limited limit').reduce F vs) := by
  match vs with
  | [] => exact .refl _
  | [v] => exact .refl _
  | v :: w :: rest =>
    simp only [reduce, joinAfter_limited]
    exact .refl _

section Levels
variable (E : Evaluator) (F : Forest) (limit limit' : Nat) {left more : Nat} (h : left ≤ more)
include h

theorem evaluateWith_cutOff (e : Expression) (n : NodeId) :
    CutOff ((E.limited limit).evaluateWith F left e n)
      ((E.limited limit').evaluateWith F more e n) := by
  induction left generalizing more e n with
  | zero => exact .inl ⟨limit, rfl⟩
  | succ left ih =>
    obtain ⟨more, rfl⟩ : ∃ k, more = k + 1 := ⟨more - 1, by omega⟩
    have hinner := ih (Nat.le_of_succ_le_succ h)
    rw [evaluateWith, evaluateWith, resolve_limited, resolve_limited]
    refine (CutOff.refl _).bind fun chain => ?_
    dsimp only
    split
    · rw [expand_eq, expand_eq]
      exact (CutOff.mapM (replacement_cutOff hinner _) _).map _
    · exact .refl _

theorem valuesWith_cutOff (v : Value) (source : NodeId) :
    CutOff ((E.limited limit).valuesWith F left v source)
      ((E.limited limit').valuesWith F more v source) := by
  cases v with
  | string text =>
    rw [valuesWith, valuesWith]
    split
    · refine (CutOff.refl _).bind fun e => ?_
      exact (E.evaluateWith_cutOff F limit limit' h e source).bind fun m => .refl _
    · exact .refl _
  | _ => exact .refl _

theorem singleWith_cutOff (v : Value) (source : NodeId) :
    CutOff ((E.limited limit).singleWith F left v source)
      ((E.limited limit').singleWith F more v source) :=
  (E.valuesWith_cutOff F limit limit' h v source).bind fun vs => E.reduce_cutOff F limit limit' vs

theorem argumentWith_cutOff {format format' : NodeId → NodeId → Except EvalError String}
    (hf : ∀ n source, CutOff (format n source) (format' n source)) (n source : NodeId) :
    CutOff ((E.limited limit).argumentWith F left format n source)
      ((E.limited limit').argumentWith F more format' n source) := by
  have hv (v : Value) : CutOff
      (do (E.limited limit).textOf F (← (E.limited limit).singleWith F (left - 1) v source))
      (do (E.limited limit').textOf F (← (E.limited limit').singleWith F (more - 1) v source)) :=
    (E.singleWith_cutOff F limit limit' (Nat.sub_le_sub_right h 1) v source).bind fun _ => .refl _
  rw [argumentWith, argumentWith]
  cases F.isFormatted n with
  | true =>
    cases (F.value n).string?.any Expression.isLikely with
    | true => exact (hf n source).bind fun text => hv (.string text)
    | false => exact hf n source
  | false =>
    cases (F.value n).string?.any Expression.isLikely with
    | true => exact hv (F.value n)
    | false => exact .refl _

theorem formatWith_cutOff (n source : NodeId) :
    CutOff ((E.limited limit).formatWith F left n source)
      ((E.limited limit').formatWith F more n source) := by
  induction left generalizing more n source with
  | zero => exact .inl ⟨limit, rfl⟩
  | succ left ih =>
    obtain ⟨more, rfl⟩ : ∃ k, more = k + 1 := ⟨more - 1, by omega⟩
    have hle := Nat.le_of_succ_le_succ h
    rw [formatWith, formatWith]
    cases F.value n with
    | string template =>
      dsimp only
      split
      · refine (CutOff.mapM (fun c => ?_) _).bind fun args => .refl _
        exact E.argumentWith_cutOff F limit limit' hle (ih hle) c _
      · exact .refl _
    | _ => exact .refl _

theorem templateWith_cutOff (n source : NodeId) :
    CutOff ((E.limited limit).templateWith F left n source)
      ((E.limited limit').templateWith F more n source) := by
  rw [templateWith, templateWith]
  split
  · exact (E.formatWith_cutOff F limit limit' h n source).map _
  · exact .refl _

end Levels

end Evaluator

namespace Query

open Evaluator

theorem run_cutOff (E : Evaluator) (F : Forest) {limit limit' : Nat} (h : limit ≤ limit')
    (q : Query) : CutOff (q.run (E.limited limit) F) (q.run (E.limited limit') F) := by
  have hb : (E.limited limit).budget ≤ (E.limited limit').budget := Nat.succ_le_succ h
  have hevaluate (e : Expression) (n : NodeId) :
      CutOff ((E.limited limit).evaluate F e n) ((E.limited limit').evaluate F e n) :=
    E.evaluateWith_cutOff F limit limit' hb e n
  have htemplate := E.templateWith_cutOff F limit limit' hb
  have hvalues := E.valuesWith_cutOff F limit limit' hb
  have hsingle := E.singleWith_cutOff F limit limit' hb
  have hstream (e : Expression) (n : NodeId) :
      CutOff ((E.limited limit).stream F e n) ((E.limited limit').stream F e n) := by
    rw [Evaluator.stream, Evaluator.stream]
    split
    · exact (hevaluate e n).bind fun m => .refl _
    · exact .refl _
  -- each query is made of these and of steps in which the limit has no part
  cases q with
  | evaluate e context => exact (hevaluate e context).map _
  | evaluateText text context =>
    exact ((CutOff.refl _).bind fun e => hevaluate e context).map _
  | stream e context => exact (hstream e context).map _
  | count e context => exact ((hstream e context).bind fun c => .refl _).map _
  | evaluateNode n source =>
    refine ((htemplate n source).bind fun v => ?_).map _
    split
    · exact (CutOff.refl _).bind fun e => hevaluate e source
    · exact .refl _
  | formatNode n source => exact (E.formatWith_cutOff F limit limit' hb n source).map _
  | single v source => exact (hsingle v source).map _
  | singleAs v source typeName => exact ((hsingle v source).bind fun v => .refl _).map _
  | singleNode n source =>
    refine (CutOff.bind ?_ fun vs => E.reduce_cutOff F limit limit' vs).map _
    rw [nodeValues, nodeValues]
    split
    · exact .refl _
    · exact (htemplate n source).bind fun v => hvalues v source
  | values v source => exact (hvalues v source).map _

/-- Whatever is asked ends, whatever the limit, although nothing but the limit bounds it; and what
it ends with, unless it is that the limit is met, it ends with for every greater limit too. -/
theorem limit_only_cuts_off (hF : F.WellFormed) (E : Evaluator) (q : Query) :
    (∀ limit, q.runUnbounded (E.limited limit) F = some (q.run (E.limited limit) F)) ∧
    ∀ limit limit', limit ≤ limit' →
      (∀ depth, q.run (E.limited limit) F ≠ .error (.tooDeep depth)) →
      q.run (E.limited limit') F = q.run (E.limited limit) F := by
  refine ⟨fun limit => q.runUnbounded_eq hF (E.limited limit), fun limit limit' h hr => ?_⟩
  rcases q.run_cutOff E F h with ⟨depth, hdepth⟩ | heq
  · exact absurd hdepth (hr depth)
  · exact heq.symm

/-- A node that leads to its parent, which leads nowhere, needs one level; one that leads to itself
meets the limit and ends there. -/
theorem limit_only_cuts_off_child :
    let F := [Edit.create "r" (.integer 1), .create "a" (.string "@/.?value"),
      .create "b" (.string "@@?value"), .add ⟨0⟩ ⟨1⟩, .add ⟨0⟩ ⟨2⟩].foldl Edit.run {}
    let child (i : Nat) := Query.evaluate ⟨"", true, ⟨[.single (.numbered i)], []⟩, .value, none⟩ ⟨0⟩
    F.WellFormed ∧ (child 0).run (limited {} 0) F = .error (.tooDeep 0) ∧
      (∀ limit, 1 ≤ limit →
        (child 0).run (limited {} limit) F = .ok (.found ⟨.value, none, [⟨⟨0⟩, .value, none, 1⟩]⟩)) ∧
      (child 1).runUnbounded (limited {} 3) F = some (.error (.tooDeep 3)) := by
  intro F child
  have hF : F.WellFormed := (Forest.Reachable.empty.foldl (by decide +kernel)).wellFormed
  have hone : (child 0).run (limited {} 1) F =
    .ok (.found ⟨.value, none, [⟨⟨0⟩, .value, none, 1⟩]⟩) := rfl
  refine ⟨hF, rfl, fun limit h => ?_, ?_⟩
  · rw [← hone]
    exact (limit_only_cuts_off hF {} (child 0)).2 1 limit h (by rw [hone]; exact nofun)
  · rw [(limit_only_cuts_off hF {} (child 1)).1 3]
    rfl

end Query
end TreeQuery
