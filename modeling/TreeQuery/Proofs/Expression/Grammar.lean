import TreeQuery.Proofs.Expression.Body
import TreeQuery.Proofs.Expression.Suffix
import TreeQuery.Proofs.Token.Lexer

namespace TreeQuery.Expression

theorem readBody_of_feed {failure : SyntaxError} {p q : Progress} {lexeme : Lexeme}
    (h : p.feed lexeme.token = .ok q) (rest : List Lexeme) :
    readBody failure p (lexeme :: rest) = readBody failure q rest := by
  rw [readBody]
  split
  · next ht => exact absurd (ht ▸ h) nofun
  · next ht => exact absurd (ht ▸ h) nofun
  · rw [h]
    rfl

theorem readBody_of_refused {failure : SyntaxError} {p : Progress} {lexeme : Lexeme} {fault : Fault}
    (h : p.feed lexeme.token = .error fault) (ht : ∀ text, lexeme.token ≠ .suffix text)
    (rest : List Lexeme) (body : Body) : readBody failure p (lexeme :: rest) ≠ .ok body := by
  rw [readBody]
  split
  · next text heq => exact absurd heq (ht text)
  · exact nofun
  · rw [h]
    exact nofun

theorem readBody_of_suffix {failure : SyntaxError} {p : Progress} {lexeme : Lexeme} {text : String}
    (ht : lexeme.token = .suffix text) (rest : List Lexeme) (body : Body) :
    readBody failure p (lexeme :: rest) = .ok body ↔
      p.outer = [] ∧ p.chain = body.chain ∧ IsSuffix text body.kind body.convert := by
  obtain ⟨chain, kind, convert⟩ := body
  rw [← readSuffix_eq_ok_iff, readBody, ht]
  dsimp only
  cases hp : p.outer with
  | cons c outer => simp
  | nil =>
    cases readSuffix text with
    | error fault => simp [faultAt, bind, Except.bind]
    | ok r => simp [faultAt, bind, Except.bind, pure, Except.pure, Prod.ext_iff]

/-- A body is read up to the first suffix, where no parenthesis may be open. -/
theorem readBody_eq_ok_iff {failure : SyntaxError} {p : Progress} {lexemes : List Lexeme}
    {body : Body} : readBody failure p lexemes = .ok body ↔
      ∃ before lexeme after text q, lexemes = before ++ lexeme :: after ∧
        lexeme.token = .suffix text ∧ p.feedAll (before.map Lexeme.token) = .ok q ∧
        q.outer = [] ∧ q.chain = body.chain ∧ IsSuffix text body.kind body.convert := by
  induction lexemes generalizing p with
  | nil =>
    refine ⟨nofun, ?_⟩
    rintro ⟨before, lexeme, after, text, q, h, -⟩
    exact absurd h (by simp)
  | cons x rest ih =>
    constructor
    · intro h
      cases hfeed : p.feed x.token with
      | ok q =>
        rw [readBody_of_feed hfeed, ih] at h
        obtain ⟨before, lexeme, after, text, q', rfl, htext, hq', hrest⟩ := h
        refine ⟨x :: before, lexeme, after, text, q', rfl, htext, ?_, hrest⟩
        rw [List.map_cons, Progress.feedAll, List.foldlM_cons, hfeed]
        exact hq'
      | error fault =>
        by_cases hx : ∃ text, x.token = .suffix text
        · obtain ⟨text, hx⟩ := hx
          exact ⟨[], x, rest, text, p, rfl, hx, rfl, (readBody_of_suffix hx rest body).1 h⟩
        · exact absurd h (readBody_of_refused hfeed (fun text ht => hx ⟨text, ht⟩) rest body)
    · rintro ⟨before, lexeme, after, text, q, hsplit, htext, hq, hrest⟩
      cases before with
      | nil =>
        obtain ⟨rfl, rfl⟩ := List.cons.inj hsplit
        obtain rfl := Except.ok.inj hq
        exact (readBody_of_suffix htext rest body).2 hrest
      | cons y before =>
        obtain ⟨rfl, rfl⟩ := List.cons.inj hsplit
        rw [List.map_cons, Progress.feedAll, List.foldlM_cons] at hq
        cases hfeed : p.feed x.token with
        | error fault => simp [hfeed, bind, Except.bind] at hq
        | ok q' =>
          rw [hfeed] at hq
          rw [readBody_of_feed hfeed, ih]
          exact ⟨before, lexeme, after, text, q, rfl, htext, hq, hrest⟩

theorem head_of_readBody {failure : SyntaxError} {p : Progress} {lexemes : List Lexeme}
    {body : Body} (h : readBody failure p lexemes = .ok body) :
    ∃ x rest, lexemes = x :: rest ∧ x.token ≠ .sentinel := by
  cases lexemes with
  | nil => exact absurd h nofun
  | cons x rest =>
    refine ⟨x, rest, rfl, fun hx => ?_⟩
    have hfeed : p.feed x.token = .error .misplacedSentinel := by
      rw [hx]
      rfl
    exact readBody_of_refused hfeed (fun text => hx ▸ nofun) rest body h

def sentinels (referenced : Bool) : List Token :=
  if referenced then [.sentinel, .sentinel] else [.sentinel]

/-- A text without lexical fault that has the tokens of an expression. -/
structure IsExpression (text : String) (referenced : Bool) (body : List Token) (suffix : String) :
    Prop where
  faultless : (Token.tokenize text).2 = none
  tokens : (Token.tokenize text).1.map Lexeme.token =
    sentinels referenced ++ body ++ [.suffix suffix, .eof]
  isBody : Token.IsBody body
  isSuffix : ∃ kind convert, IsSuffix suffix kind convert

def ofBody (source : String) (referenced : Bool) (body : Body) : Expression :=
  ⟨source, referenced, body.chain, body.kind, body.convert⟩

theorem readLexemes_single {source : String} {failure : SyntaxError} {first second : Lexeme}
    {rest : List Lexeme} (h1 : first.token = .sentinel) (h2 : second.token ≠ .sentinel) :
    readLexemes source failure (first :: second :: rest) =
      (readBody failure {} (second :: rest)).map (ofBody source false) := by
  unfold readLexemes
  simp only [h1, h2, if_true, if_false]
  cases readBody failure {} (second :: rest) <;> rfl

theorem readLexemes_double {source : String} {failure : SyntaxError} {first second third : Lexeme}
    {rest : List Lexeme} (h1 : first.token = .sentinel) (h2 : second.token = .sentinel)
    (h3 : third.token ≠ .sentinel) :
    readLexemes source failure (first :: second :: third :: rest) =
      (readBody failure {} (third :: rest)).map (ofBody source true) := by
  unfold readLexemes
  simp only [h1, h2, h3, if_true, if_false]
  cases readBody failure {} (third :: rest) <;> rfl

theorem readLexemes_of_sentinels {source : String} {failure : SyntaxError} {referenced : Bool}
    {front rest : List Lexeme} {x : Lexeme} (hfront : front.map Lexeme.token = sentinels referenced)
    (hx : x.token ≠ .sentinel) : readLexemes source failure (front ++ x :: rest) =
      (readBody failure {} (x :: rest)).map (ofBody source referenced) := by
  cases referenced with
  | false =>
    obtain ⟨first, _, rfl, h1, hnil⟩ := List.map_eq_cons_iff.1 hfront
    obtain rfl := List.map_eq_nil_iff.1 hnil
    exact readLexemes_single h1 hx
  | true =>
    obtain ⟨first, _, rfl, h1, hmap⟩ := List.map_eq_cons_iff.1 hfront
    obtain ⟨second, _, rfl, h2, hnil⟩ := List.map_eq_cons_iff.1 hmap
    obtain rfl := List.map_eq_nil_iff.1 hnil
    exact readLexemes_double h1 h2 hx

/-- An expression that begins with some tokens cannot go on with another one. -/
def Stops (ts : List Token) (t : Token) : Prop :=
  ∀ source failure before lexeme rest, before.map Lexeme.token = ts → lexeme.token = t →
    ∃ fault, readLexemes source failure (before ++ lexeme :: rest) =
      .error (.unexpected lexeme fault)

theorem stops_nil {t : Token} (ht : t ≠ .sentinel) : Stops [] t := by
  intro source failure before lexeme rest hbefore hlexeme
  obtain rfl := List.map_eq_nil_iff.1 hbefore
  exact ⟨.expectedSentinel, by simp [readLexemes, hlexeme, ht]⟩

theorem stops_sentinels : Stops (sentinels true) .sentinel := by
  intro source failure before lexeme rest hbefore hlexeme
  obtain ⟨first, _, rfl, h1, hmap⟩ := List.map_eq_cons_iff.1 hbefore
  obtain ⟨second, _, rfl, h2, hnil⟩ := List.map_eq_cons_iff.1 hmap
  obtain rfl := List.map_eq_nil_iff.1 hnil
  exact ⟨.tooManySentinels, by simp [readLexemes, h1, h2, hlexeme]⟩

/-- Tokens begin with sentinels and another token after them, or are nothing but sentinels, or one
of them is wrong where sentinels are expected to begin or to end. -/
theorem readLexemes_cases (lexemes : List Lexeme) :
    (∃ referenced front x rest, lexemes = front ++ x :: rest ∧
      front.map Lexeme.token = sentinels referenced ∧ x.token ≠ .sentinel) ∨
    ((∀ x ∈ lexemes, x.token = .sentinel) ∧
      ∀ source failure, readLexemes source failure lexemes = .error failure) ∨
    ∃ before lexeme rest, lexemes = before ++ lexeme :: rest ∧
      (before.map Lexeme.token = [] ∨ before.map Lexeme.token = sentinels true) ∧
      Stops (before.map Lexeme.token) lexeme.token := by
  cases lexemes with
  | nil => exact .inr (.inl ⟨nofun, fun _ _ => rfl⟩)
  | cons first rest =>
    by_cases h1 : first.token = .sentinel
    · cases rest with
      | nil => exact .inr (.inl ⟨by simp [h1], fun _ _ => by simp [readLexemes, h1]⟩)
      | cons second rest =>
        by_cases h2 : second.token = .sentinel
        · have hfront : [first, second].map Lexeme.token = sentinels true := by
            simp [sentinels, h1, h2]
          cases rest with
          | nil => exact .inr (.inl ⟨by simp [h1, h2], fun _ _ => by simp [readLexemes, h1, h2]⟩)
          | cons third rest =>
            by_cases h3 : third.token = .sentinel
            · refine .inr (.inr ⟨[first, second], third, rest, rfl, .inr hfront, ?_⟩)
              rw [hfront, h3]
              exact stops_sentinels
            · exact .inl ⟨true, [first, second], third, rest, rfl, hfront, h3⟩
        · have hfront : [first].map Lexeme.token = sentinels false := by simp [sentinels, h1]
          exact .inl ⟨false, [first], second, rest, rfl, hfront, h2⟩
    · exact .inr (.inr ⟨[], first, rest, rfl, .inl rfl, stops_nil h1⟩)

theorem exists_of_map_ofBody {r : Except SyntaxError Body} {source : String} {referenced : Bool}
    {e : Expression} (h : r.map (ofBody source referenced) = .ok e) :
    ∃ body, r = .ok body ∧ e = ofBody source referenced body := by
  cases r with
  | error fault => exact absurd h nofun
  | ok body => exact ⟨body, rfl, (Except.ok.inj h).symm⟩

theorem readLexemes_eq_ok_iff {source : String} {failure : SyntaxError} {lexemes : List Lexeme}
    {e : Expression} : readLexemes source failure lexemes = .ok e ↔
      ∃ front rest body, lexemes = front ++ rest ∧
        front.map Lexeme.token = sentinels e.referenced ∧ readBody failure {} rest = .ok body ∧
        e = ofBody source e.referenced body := by
  constructor
  · intro h
    rcases readLexemes_cases lexemes with ⟨referenced, front, x, rest, rfl, hfront, hx⟩ |
      ⟨-, hfailure⟩ | ⟨before, lexeme, rest, rfl, -, hstops⟩
    · rw [readLexemes_of_sentinels hfront hx] at h
      obtain ⟨body, hbody, rfl⟩ := exists_of_map_ofBody h
      exact ⟨front, x :: rest, body, rfl, hfront, hbody, rfl⟩
    · rw [hfailure] at h
      cases h
    · obtain ⟨fault, hfault⟩ := hstops source failure before lexeme rest rfl rfl
      rw [hfault] at h
      cases h
  · rintro ⟨front, rest, body, rfl, hfront, hbody, he⟩
    obtain ⟨x, rest, rfl, hx⟩ := head_of_readBody hbody
    rw [readLexemes_of_sentinels hfront hx, hbody, he]
    rfl

theorem compile_eq_readLexemes (text : String) :
    ∃ failure, compile text = readLexemes text failure (Token.tokenize text).1 := by
  rw [compile]
  rcases Token.tokenize text with ⟨lexemes, fault | fault⟩
  · exact ⟨_, rfl⟩
  · exact ⟨_, rfl⟩

theorem compile_eq_ok_iff {text : String} {e : Expression} :
    compile text = .ok e ↔ ∃ body suffix, IsExpression text e.referenced body suffix ∧
      e.source = text ∧ IsSuffix suffix e.kind e.convert ∧
      e.chain.marks = body.filterMap Token.mark? := by
  obtain ⟨failure, hcompile⟩ := compile_eq_readLexemes text
  rw [hcompile, readLexemes_eq_ok_iff]
  -- what stands before the first suffix is the body, and nothing but the end comes after it
  constructor
  · rintro ⟨front, rest, body, hsplit, hfront, hbody, he⟩
    obtain ⟨before, lexeme, after, suffix, q, rfl, hsuffix, hq, houter, hchain, hkind⟩ :=
      readBody_eq_ok_iff.1 hbody
    have hread : (Token.readAll (text.toList.length + 1) {} text.toList).1 =
        (front ++ before) ++ lexeme :: after := by
      rw [List.append_assoc]
      exact hsplit
    obtain ⟨hafter, hnone⟩ := Token.readAll_after_suffix (Nat.lt_succ_self _) hread hsuffix
    obtain ⟨hmarks, hdepth, -⟩ := Progress.feedAll_spec hq
    rw [houter, List.length_nil, Nat.zero_add] at hdepth
    refine ⟨before.map Lexeme.token, suffix, ⟨hnone, ?_, ⟨?_, hdepth⟩, _, _, hkind⟩, ?_, ?_, ?_⟩
    · rw [hsplit, List.map_append, List.map_append, List.map_cons, hfront, hsuffix, hafter,
        List.append_assoc]
    · exact Progress.exists_feedAll_iff.1 ⟨q, hq⟩
    · rw [he]
      rfl
    · rw [he]
      exact hkind
    · rw [he, ← hmarks, Progress.marks, houter, hchain]
      rfl
  · rintro ⟨body, suffix, hexp, rfl, hkind, hmarks⟩
    obtain ⟨front, rest, hsplit, hfront, hrest⟩ :=
      List.map_eq_append_iff.1 (hexp.tokens.trans (List.append_assoc _ _ _))
    obtain ⟨before, last, rfl, rfl, hlast⟩ := List.map_eq_append_iff.1 hrest
    obtain ⟨lexeme, after, rfl, hsuffix, -⟩ := List.map_eq_cons_iff.1 hlast
    obtain ⟨q, hq, houter, hq'⟩ := Progress.exists_feedAll_of_isBody hexp.isBody
    have hchain : q.chain = e.chain := Chain.marks_injective (hq'.trans hmarks.symm)
    refine ⟨front, before ++ lexeme :: after, ⟨e.chain, e.kind, e.convert⟩, hsplit, hfront, ?_, rfl⟩
    exact readBody_eq_ok_iff.2
      ⟨before, lexeme, after, suffix, q, rfl, hsuffix, hq, houter, hchain, hkind⟩

/-- The tokens of an expression are spelled one after the other, and the suffix ends the text. -/
theorem isExpression_iff_reads {text suffix : String} {referenced : Bool} {body : List Token} :
    IsExpression text referenced body suffix ↔
      Token.Reads text.toList (sentinels referenced ++ body ++ [.suffix suffix]) [] ∧
        Token.IsBody body ∧ ∃ kind convert, IsSuffix suffix kind convert := by
  constructor
  · rintro ⟨hfault, htokens, hbody, hsuffix⟩
    have htokens' : (Token.tokenize text).1.map Lexeme.token =
        (sentinels referenced ++ body ++ [.suffix suffix]) ++ [.eof] := by
      rw [htokens, List.append_assoc _ [Token.suffix suffix]]
      rfl
    obtain ⟨left, hleft, -⟩ := Token.tokenize_eq_iff.1 ⟨hfault, htokens'⟩
    obtain ⟨mid, -, hend⟩ := Token.reads_append_iff.1 hleft
    obtain ⟨blanks, front, rest, -, -, hspells, rfl⟩ := hend
    obtain ⟨rfl, -⟩ := hspells
    exact ⟨hleft, hbody, hsuffix⟩
  · rintro ⟨hreads, hbody, hsuffix⟩
    obtain ⟨hfault, htokens⟩ := Token.tokenize_eq_iff.2 ⟨[], hreads, nofun⟩
    exact ⟨hfault, htokens.trans (List.append_assoc _ _ _), hbody, hsuffix⟩

theorem isSuffix_node : IsSuffix "node" .node none := ⟨"node".toList, by decide, rfl, rfl⟩

theorem reads_suffix_node : Token.Reads "?node".toList [.suffix "node"] [] := by
  have hsuffix : Token.Spells "?node".toList [] (.suffix "node") := ⟨rfl, _, rfl, by decide⟩
  exact Token.reads_of_spells hsuffix (Token.reads_nil [])

theorem compile_of_reads {text suffix : String} {body : List Token} {chain : Chain Literal}
    {kind : Projection} {convert : Option String}
    (hreads : Token.Reads text.toList (.sentinel :: body ++ [.suffix suffix]) [])
    (hbody : Token.IsBody body) (hsuffix : IsSuffix suffix kind convert)
    (hmarks : chain.marks = body.filterMap Token.mark?) :
    compile text = .ok ⟨text, false, chain, kind, convert⟩ := by
  have hexp : IsExpression text false body suffix :=
    isExpression_iff_reads.2 ⟨hreads, hbody, kind, convert, hsuffix⟩
  exact compile_eq_ok_iff.2 ⟨body, suffix, hexp, rfl, hsuffix, hmarks⟩

/-- A text is read as an expression if and only if its tokens are one or two sentinels, a body and a
suffix. The chain that is read is then the only one that, written out, has the marks of the body:
its steps, and each operator with those after it, are at every level those of the text. -/
theorem compile_accepts_grammar (text : String) :
    ((∃ e, compile text = .ok e) ↔
      ∃ referenced body suffix, IsExpression text referenced body suffix) ∧
    ∀ e, compile text = .ok e → ∃ body suffix, IsExpression text e.referenced body suffix ∧
      e.source = text ∧ IsSuffix suffix e.kind e.convert ∧
      ∀ c : Chain Literal, c.marks = body.filterMap Token.mark? ↔ c = e.chain := by
  refine ⟨⟨?_, ?_⟩, ?_⟩
  · rintro ⟨e, he⟩
    obtain ⟨body, suffix, hexp, -⟩ := compile_eq_ok_iff.1 he
    exact ⟨e.referenced, body, suffix, hexp⟩
  · rintro ⟨referenced, body, suffix, hexp⟩
    obtain ⟨kind, convert, hkind⟩ := hexp.isSuffix
    obtain ⟨q, -, -, hq⟩ := Progress.exists_feedAll_of_isBody hexp.isBody
    let e : Expression := ⟨text, referenced, q.chain, kind, convert⟩
    exact ⟨e, compile_eq_ok_iff.2 ⟨body, suffix, hexp, rfl, hkind, hq⟩⟩
  · intro e he
    obtain ⟨body, suffix, hexp, hsource, hkind, hmarks⟩ := compile_eq_ok_iff.1 he
    refine ⟨body, suffix, hexp, hsource, hkind, fun c => ⟨fun hc => ?_, ?_⟩⟩
    · exact Chain.marks_injective (hc.trans hmarks.symm)
    · rintro rfl
      exact hmarks

/-- A referenced expression with an operator in a group. -/
theorem compile_accepts_grammar_group :
    let text := "@@(/* | /..)/#?value.int"
    let inner := ⟨[.single .children], [⟨.or, [.single .root]⟩]⟩
    let chain := ⟨[.group inner, .single .reference], []⟩
    compile text = .ok ⟨text, true, chain, .value, some "int"⟩ ∧
      ∃ body suffix, IsExpression text true body suffix ∧ IsSuffix suffix .value (some "int") ∧
        ∀ c : Chain Literal, c.marks = body.filterMap Token.mark? ↔ c = chain := by
  intro text inner chain
  have he : compile text = .ok ⟨text, true, chain, .value, some "int"⟩ := by
    dsimp only [text, chain, inner]
    rfl
  obtain ⟨body, suffix, hexp, -, hkind, hc⟩ := (compile_accepts_grammar text).2 _ he
  exact ⟨he, body, suffix, hexp, hkind, hc⟩

end TreeQuery.Expression
