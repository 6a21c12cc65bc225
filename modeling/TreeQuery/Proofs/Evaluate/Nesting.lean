import TreeQuery.Proofs.Evaluate.Limit
import TreeQuery.Proofs.Evaluate.Recognition

namespace TreeQuery.Evaluator

variable {E : Evaluator} {F : Forest} {p c source : NodeId} {text : String}

/-- The text that a nameless child contributes to a template. It is its own source if the template
is. -/
def contribution (E : Evaluator) (F : Forest) (p source c : NodeId) : Except EvalError String :=
  E.argumentWith F E.maxDepth (E.formatWith F E.maxDepth) c (if p = source then c else source)

theorem exists_of_isFormatted (h : F.isFormatted c = true) :
    ∃ template, F.value c = .string template := by
  obtain ⟨hvalue, -⟩ := Bool.and_eq_true_iff.1 h
  cases hc : F.value c with
  | string template => exact ⟨template, rfl⟩
  | _ =>
    rw [hc] at hvalue
    exact absurd hvalue Bool.false_ne_true

theorem formatNode_eq {template : String} (hp : F.isFormatted p = true)
    (hvalue : F.value p = .string template) (E : Evaluator) (source : NodeId) :
    E.formatNode F p source =
      (F.childrenNamed p "").mapM (E.contribution F p source) >>= fun args =>
        (Template.fill args template).mapError (.template template) := by
  rw [formatNode, budget, formatWith, hvalue]
  dsimp only
  rw [if_pos hp]
  show ((F.childrenNamed p "").mapM (E.contribution F p source) >>= _) = _
  congr 1
  funext args
  cases Template.fill args template <;> rfl

theorem single_of_constant (h : Expression.isLikely text = false) :
    E.single F (.string text) source = .ok (.string text) := by
  rw [single, singleWith, valuesWith, h]
  rfl

theorem singleNode_of_isFormatted (hc : F.isFormatted c = true) (E : Evaluator)
    (source : NodeId) : E.singleNode F c source =
      E.formatNode F c source >>= fun text => E.single F (.string text) source := by
  obtain ⟨template, hvalue⟩ := exists_of_isFormatted hc
  have hnull : ¬ (F.value c).isNull = true := by
    rw [hvalue]
    exact Bool.false_ne_true
  rw [singleNode, nodeValues, if_neg hnull, templateWith, if_pos hc, ← formatNode]
  cases E.formatNode F c source <;> rfl

theorem exists_error_of_contribution {err : EvalError} (hp : F.isFormatted p = true)
    (hc : c ∈ F.childrenNamed p "") (h : E.contribution F p source c = .error err) :
    ∃ err', E.formatNode F p source = .error err' := by
  obtain ⟨template, hvalue⟩ := exists_of_isFormatted hp
  rw [formatNode_eq hp hvalue]
  cases hargs : (F.childrenNamed p "").mapM (E.contribution F p source) with
  | error err' => exact ⟨err', rfl⟩
  | ok args =>
    obtain ⟨part, hpart⟩ := ok_of_mem_mapM hargs hc
    exact absurd (h.symm.trans hpart) nofun

section Limit
variable {template : String} (hc : F.isFormatted c = true) (hvalue : F.value c = .string template)
  (hdepth : ∀ limit, E.contribution F p source c ≠ .error (.tooDeep limit))
include hc hvalue hdepth

/-- A template that looks like an expression is reduced as it is by itself. -/
theorem contribution_of_likely (hlikely : Expression.isLikely template = true) :
    E.contribution F p source c =
      E.singleNode F c (if p = source then c else source) >>= E.textOf F := by
  generalize hs : (if p = source then c else source) = s
  have hcontribution : E.contribution F p source c =
      E.formatWith F E.maxDepth c s >>= fun text =>
        E.singleWith F (E.maxDepth - 1) (.string text) s >>= E.textOf F := by
    rw [contribution, hs, argumentWith_of_likely hlikely hvalue, if_pos hc]
  rw [hcontribution] at hdepth ⊢
  -- the levels that an argument has left suffice, so it has the result with more of them
  have hformat : CutOff (E.formatWith F E.maxDepth c s) (E.formatNode F c s) :=
    E.formatWith_cutOff F E.maxDepth E.maxDepth (Nat.le_succ E.maxDepth) c s
  have hsingle (v : Value) : CutOff (E.singleWith F (E.maxDepth - 1) v s) (E.single F v s) :=
    E.singleWith_cutOff F E.maxDepth E.maxDepth (by rw [budget]; omega) v s
  have hcut := hformat.bind fun text => (hsingle (.string text)).bind fun v =>
    CutOff.refl (E.textOf F v)
  rw [hcut.eq_of_not_tooDeep hdepth, singleNode_of_isFormatted hc, bind_assoc]

/-- Another one is filled, and nothing more. -/
theorem contribution_of_not_likely (hlikely : Expression.isLikely template = false) :
    E.contribution F p source c = E.formatNode F c (if p = source then c else source) := by
  have hcontribution : E.contribution F p source c =
      E.formatWith F E.maxDepth c (if p = source then c else source) := by
    have hany : (Value.string template).string?.any Expression.isLikely = false := hlikely
    rw [contribution, argumentWith, hc, hvalue, hany]
  rw [hcontribution] at hdepth ⊢
  have hformat := E.formatWith_cutOff F E.maxDepth E.maxDepth (Nat.le_succ E.maxDepth) c
    (if p = source then c else source)
  exact hformat.eq_of_not_tooDeep hdepth

end Limit

/-- A template contributes to another one what it is reduced to by itself, if it looks like an
expression before it is filled. Else it contributes the text that it is filled to, also where this
is an expression: that is the same only if the text stands for itself, as constants do. -/
theorem contribution_of_template {template : String} (hp : F.isFormatted p = true)
    (hmem : c ∈ F.childrenNamed p "") (hc : F.isFormatted c = true)
    (hvalue : F.value c = .string template)
    (hdepth : ∀ limit, E.contribution F p source c ≠ .error (.tooDeep limit)) :
    let s := if p = source then c else source
    (∀ outer, F.value p = .string outer → E.formatNode F p source =
      (F.childrenNamed p "").mapM (E.contribution F p source) >>= fun args =>
        (Template.fill args outer).mapError (.template outer)) ∧
    (∀ err, E.contribution F p source c = .error err →
      ∃ err', E.formatNode F p source = .error err') ∧
    (Expression.isLikely template = true →
      E.contribution F p source c = E.singleNode F c s >>= E.textOf F) ∧
    (Expression.isLikely template = false →
      E.contribution F p source c = E.formatNode F c s ∧
      (E.contribution F p source c = E.singleNode F c s >>= E.textOf F ↔
        ∀ text, E.formatNode F c s = .ok text →
          E.single F (.string text) s >>= E.textOf F = .ok text)) ∧
    ∀ text, Expression.isLikely text = false → E.textOf F (.string text) = .ok text →
      E.single F (.string text) s >>= E.textOf F = .ok text := by
  intro s
  refine ⟨fun outer houter => formatNode_eq hp houter E source,
    fun err => exists_error_of_contribution hp hmem, contribution_of_likely hc hvalue hdepth,
    fun hlikely => ?_, fun text htext hkept => ?_⟩
  · have hcontribution : E.contribution F p source c = E.formatNode F c s :=
      contribution_of_not_likely hc hvalue hdepth hlikely
    refine ⟨hcontribution, ?_⟩
    -- by itself the filled text would be evaluated once more
    rw [hcontribution, singleNode_of_isFormatted hc, bind_assoc]
    cases E.formatNode F c s with
    | error err => exact iff_of_true rfl nofun
    | ok text =>
      constructor
      · intro h text' htext'
        obtain rfl := Except.ok.inj htext'
        exact h.symm
      · intro h
        exact (h text rfl).symm
  · rw [single_of_constant htext]
    exact hkept

/-- Two arguments that lead to the name of their parent. The one that looks like an expression is
evaluated; the other one becomes an expression when it is filled, and stays as it is. -/
theorem contribution_of_template_name :
    let F := [Edit.create "p" (.string "\x7b0\x7d \x7b1\x7d"),
      .create "" (.string "@/..?\x7b0\x7d"), .create "" (.string "name"),
      .create "" (.string "\x7b0\x7d/..?name"), .create "" (.string "@"),
      .add ⟨0⟩ ⟨1⟩, .add ⟨1⟩ ⟨2⟩, .add ⟨0⟩ ⟨3⟩, .add ⟨3⟩ ⟨4⟩].foldl Edit.run {}
    F.isFormatted ⟨0⟩ = true ∧ F.childrenNamed ⟨0⟩ "" = [⟨1⟩, ⟨3⟩] ∧
      F.isFormatted ⟨1⟩ = true ∧ F.isFormatted ⟨3⟩ = true ∧
      contribution {} F ⟨0⟩ ⟨0⟩ ⟨1⟩ = .ok "p" ∧
      contribution {} F ⟨0⟩ ⟨0⟩ ⟨1⟩ = singleNode {} F ⟨1⟩ ⟨1⟩ >>= textOf {} F ∧
      contribution {} F ⟨0⟩ ⟨0⟩ ⟨3⟩ = .ok "@/..?name" ∧
      contribution {} F ⟨0⟩ ⟨0⟩ ⟨3⟩ = formatNode {} F ⟨3⟩ ⟨3⟩ ∧
      singleNode {} F ⟨3⟩ ⟨3⟩ >>= textOf {} F = .ok "p" := by
  intro F
  have hp : F.isFormatted ⟨0⟩ = true := by decide +kernel
  have hchildren : F.childrenNamed ⟨0⟩ "" = [⟨1⟩, ⟨3⟩] := by decide +kernel
  have hfirst : F.isFormatted ⟨1⟩ = true := by decide +kernel
  have hsecond : F.isFormatted ⟨3⟩ = true := by decide +kernel
  have hname : contribution {} F ⟨0⟩ ⟨0⟩ ⟨1⟩ = .ok "p" := by decide +kernel
  have htext : contribution {} F ⟨0⟩ ⟨0⟩ ⟨3⟩ = .ok "@/..?name" := by decide +kernel
  have hmem : ⟨1⟩ ∈ F.childrenNamed ⟨0⟩ "" ∧ ⟨3⟩ ∈ F.childrenNamed ⟨0⟩ "" := by
    rw [hchildren]
    decide
  obtain ⟨-, -, hlikely, -⟩ := contribution_of_template hp hmem.1 hfirst rfl
    fun limit => by rw [hname]; exact nofun
  obtain ⟨-, -, -, hfilled, -⟩ := contribution_of_template hp hmem.2 hsecond rfl
    fun limit => by rw [htext]; exact nofun
  exact ⟨hp, hchildren, hfirst, hsecond, hname, hlikely (by decide), htext,
    (hfilled (by decide)).1, by decide +kernel⟩

end TreeQuery.Evaluator
