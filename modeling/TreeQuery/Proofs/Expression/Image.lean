import TreeQuery.Proofs.Expression.Compose
import TreeQuery.Proofs.Expression.Every
import TreeQuery.Proofs.Expression.Grammar
import TreeQuery.Proofs.Expression.Selector
import TreeQuery.Proofs.Token.Written

namespace TreeQuery

def Chain.WellFormed (c : Chain Literal) : Prop := c.Every Selector.WellFormed

namespace Selector

/-- A token that stands for a selector. -/
def token (s : Selector Literal) : Token :=
  match s with
  | equals _ => .word (String.ofList s.text) false
  | _ => .literal (String.ofList s.text)

theorem selector?_token {s : Selector Literal} (h : s.WellFormed) :
    s.token.selector? = some (.ok s) := by
  by_cases hl : ∃ l, s = equals l
  · obtain ⟨l, rfl⟩ := hl
    have hop : SetOp.ofText? (String.ofList (equals l).text) = none := by
      rw [SetOp.ofText?, String.toList_ofList, text]
      cases literalText l <;> rfl
    simp only [token, Token.selector?, hop, Option.isSome_none, Bool.false_eq_true, if_false,
      String.toList_ofList]
    rw [ofWord_text h (by simp) (by simp) (by simp)]
  · have htoken : s.token = .literal (String.ofList s.text) := by
      unfold token
      split
      · exact absurd ⟨_, rfl⟩ hl
      · rfl
    rw [htoken, Token.selector?, String.toList_ofList, ofLiteral_text h fun l e => hl ⟨l, e⟩]

theorem writable_token (s : Selector Literal) : s.token.Writable := by
  unfold token
  split
  · refine ⟨'=', ?_, by decide⟩
    rw [String.toList_ofList]
    rfl
  · exact trivial

theorem wellFormed_of_selector? {t : Token} {s : Selector Literal}
    (h : t.selector? = some (.ok s)) : s.WellFormed := by
  cases t with
  | word text verbatim =>
    cases verbatim with
    | true =>
      obtain rfl := Except.ok.inj (Option.some.inj h)
      exact trivial
    | false =>
      rw [Token.selector?] at h
      split at h
      · cases h
      · exact wellFormed_of_ofWord (Option.some.inj h)
  | literal text => exact wellFormed_of_ofLiteral (Option.some.inj h)
  | _ => cases h

end Selector

def Mark.tokens : Mark Literal → List Token
  | .step s => [.slash, s.token]
  | .operator op => [.word (String.singleton op.symbol) false]
  | .opens => [.openParen]
  | .closes => [.closeParen]

theorem Mark.writable_tokens (m : Mark Literal) : ∀ t ∈ m.tokens, t.Writable := by
  cases m with
  | step s => exact List.forall_mem_cons.2 ⟨trivial, List.forall_mem_singleton.2 s.writable_token⟩
  | operator op =>
    refine List.forall_mem_singleton.2 ⟨op.symbol, ?_, ?_⟩
    · rw [String.toList_singleton]
      rfl
    · cases op <;> decide
  | opens => exact List.forall_mem_singleton.2 trivial
  | closes => exact List.forall_mem_singleton.2 trivial

theorem Token.mark?_of_step {t : Token} {s : Selector Literal} (h : t.mark? = some (.step s)) :
    t.selector? = some (.ok s) := by
  cases hop : t.operator? with
  | some op =>
    rw [(Token.of_operator hop).2.2] at h
    exact absurd (Option.some.inj h) nofun
  | none =>
    unfold Token.mark? at h
    split at h
    · exact absurd (Option.some.inj h) nofun
    · exact absurd (Option.some.inj h) nofun
    · rw [hop] at h
      cases hsel : t.selector? with
      | none => rw [hsel] at h; exact absurd h nofun
      | some r =>
        rw [hsel] at h
        cases r with
        | error fault => exact absurd h nofun
        | ok s' => rw [Mark.step.inj (Option.some.inj h)]

theorem Mark.filterMap_tokens {ms : List (Mark Literal)}
    (h : ∀ s, .step s ∈ ms → s.WellFormed) :
    (ms.flatMap Mark.tokens).filterMap Token.mark? = ms := by
  induction ms with
  | nil => rfl
  | cons m ms ih =>
    have hm : m.tokens.filterMap Token.mark? = [m] := by
      cases m with
      | step s =>
        have hs := Selector.selector?_token (h s List.mem_cons_self)
        have hmark := (Token.of_selector hs).2.2 s rfl
        rw [Mark.tokens, List.filterMap_cons_none rfl, List.filterMap_cons_some hmark]
        rfl
      | operator op =>
        have hmark := (Token.of_operator (Token.operator?_symbol op)).2.2
        rw [Mark.tokens, List.filterMap_cons_some hmark]
        rfl
      | opens => rfl
      | closes => rfl
    rw [List.flatMap_cons, List.filterMap_append, hm,
      ih fun s hs => h s (List.mem_cons_of_mem m hs)]
    rfl

mutual
theorem Step.isBody_tokens (s : Step Literal) (h : s.Every Selector.WellFormed) :
    Token.IsBody (s.marks.flatMap Mark.tokens) := by
  cases s with
  | single s => exact Token.isBody_step (Selector.selector?_token h)
  | group c =>
    rw [Step.marks, List.flatMap_append]
    exact (Chain.isBody_tokens c h).group
termination_by structural s

theorem Chain.isBody_tokens (c : Chain Literal) (h : c.WellFormed) :
    Token.IsBody (c.marks.flatMap Mark.tokens) := by
  obtain ⟨steps, operands⟩ := c
  rw [Chain.marks, List.flatMap_append]
  exact (Step.isBody_tokens_all steps h.1).append (Operand.isBody_tokens_all operands h.2)
termination_by structural c

theorem Step.isBody_tokens_all (steps : List (Step Literal))
    (h : Step.EveryAll Selector.WellFormed steps) :
    Token.IsBody ((Step.marksAll steps).flatMap Mark.tokens) := by
  cases steps with
  | nil => exact .nil
  | cons s rest =>
    rw [Step.marksAll, List.flatMap_append]
    exact (Step.isBody_tokens s h.1).append (Step.isBody_tokens_all rest h.2)
termination_by structural steps

theorem Operand.isBody_tokens_all (operands : List (Operand Literal))
    (h : Operand.EveryAll Selector.WellFormed operands) :
    Token.IsBody ((Operand.marksAll operands).flatMap Mark.tokens) := by
  cases operands with
  | nil => exact .nil
  | cons o rest =>
    obtain ⟨op, steps⟩ := o
    rw [Operand.marksAll, List.flatMap_cons, List.flatMap_append]
    have hsteps := Step.isBody_tokens_all steps h.1
    exact (Token.isBody_operator (Token.operator?_symbol op)).append
      (hsteps.append (Operand.isBody_tokens_all rest h.2))
termination_by structural operands
end

namespace Chain

def tokens (c : Chain Literal) : List Token := c.marks.flatMap Mark.tokens

/-- A text for a chain, read as the nodes it selects. -/
def text (c : Chain Literal) : String :=
  String.ofList (Token.spaced (.sentinel :: c.tokens) ++ " ?node".toList)

theorem reads_text (c : Chain Literal) :
    Token.Reads c.text.toList (.sentinel :: c.tokens ++ [.suffix "node"]) [] := by
  have hwritable : ∀ t ∈ Token.sentinel :: c.tokens, t.Writable := by
    refine List.forall_mem_cons.2 ⟨trivial, fun t ht => ?_⟩
    obtain ⟨m, -, hm⟩ := List.mem_flatMap.1 ht
    exact m.writable_tokens t hm
  rw [text, String.toList_ofList]
  refine Token.reads_append_iff.2 ⟨_, Token.reads_spaced hwritable "?node".toList, ?_⟩
  exact Expression.reads_suffix_node.blank_append Token.isBlank_space nofun

/-- A chain that is well-formed is read from its text. -/
theorem compile_text {c : Chain Literal} (h : c.WellFormed) :
    Expression.compile c.text = .ok ⟨c.text, false, c, .node, none⟩ := by
  refine Expression.compile_of_reads c.reads_text (c.isBody_tokens h) Expression.isSuffix_node ?_
  exact (Mark.filterMap_tokens (c.every_iff.1 h)).symm

end Chain

theorem Expression.wellFormed_of_compile {text : String} {e : Expression}
    (h : compile text = .ok e) : e.chain.WellFormed := by
  obtain ⟨body, suffix, -, -, -, hmarks⟩ := compile_eq_ok_iff.1 h
  refine e.chain.every_iff.2 fun s hs => ?_
  rw [hmarks] at hs
  obtain ⟨t, -, ht⟩ := List.mem_filterMap.1 hs
  exact Selector.wellFormed_of_selector? (Token.mark?_of_step ht)

/-- The chains that are read from texts are the well-formed ones, and a number in a text is what its
digits denote: one that is too large is a fault of the text. -/
theorem Expression.compile_image :
    (∀ chain : Chain Literal,
      (∃ text e, compile text = .ok e ∧ e.chain = chain) ↔ chain.WellFormed) ∧
    ∀ digits, Selector.isDigits digits = true →
      Selector.Exact Selector.ofWord digits ∧ Selector.Exact Selector.ofLiteral digits := by
  refine ⟨fun chain => ⟨?_, fun h => ⟨_, _, chain.compile_text h, rfl⟩⟩, fun digits hd => ?_⟩
  · rintro ⟨text, e, h, rfl⟩
    exact wellFormed_of_compile h
  · exact ⟨Selector.exact_ofWord hd, Selector.exact_ofLiteral hd⟩

/-- A group with a typed literal and a range, and a number of 65 bits. -/
theorem Expression.compile_image_typed :
    let inner := ⟨[.single (.equals (.typed "int" "/5/"))], [⟨.not, [.single (.named "\\a\"")]⟩]⟩
    let chain := ⟨[.group inner, .single (.range none (some 12))], []⟩
    (∃ text e, compile text = .ok e ∧ e.chain = chain) ∧
      Selector.ofWord "18446744073709551616".toList =
        .error (.numberTooLarge "18446744073709551616") := by
  intro inner chain
  have htyped : (Selector.equals (.typed "int" "/5/")).WellFormed := ⟨by decide, by decide⟩
  have hrange : (Selector.range none (some 12)).WellFormed :=
    ⟨nofun, fun i hi => by obtain rfl := Option.some.inj hi; decide⟩
  have hinner : inner.WellFormed := ⟨⟨htyped, trivial⟩, ⟨trivial, trivial⟩, trivial⟩
  obtain ⟨himage, hdigits⟩ := compile_image
  exact ⟨(himage chain).2 ⟨⟨hinner, hrange, trivial⟩, trivial⟩, (hdigits _ rfl).1.numbered⟩

end TreeQuery
