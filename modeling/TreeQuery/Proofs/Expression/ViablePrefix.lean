import TreeQuery.Proofs.Expression.Layout
import TreeQuery.Proofs.Result

namespace TreeQuery

namespace Token

theorem Readable.isBody_closed {ts : List Token} {k : Nat} (h : Readable ts)
    (hk : ts.count .openParen = ts.count .closeParen + k) :
    IsBody (ts ++ List.replicate k .closeParen) := by
  induction k generalizing ts with
  | zero =>
    rw [List.replicate_zero, List.append_nil]
    exact ⟨h, hk.symm⟩
  | succ k ih =>
    have hclose : Accepted (ts.count .openParen - ts.count .closeParen)
        (ts.getLast? == some .slash) closeParen := by
      refine ⟨rfl, fun _ => ?_, nofun, nofun⟩
      omega
    have hcount : (ts ++ [closeParen]).count openParen =
        (ts ++ [closeParen]).count closeParen + k := by
      rw [List.count_append, List.count_append]
      show ts.count openParen + 0 = ts.count closeParen + 1 + k
      omega
    have hbody := ih (readable_concat.2 ⟨h, hclose⟩) hcount
    rwa [List.append_assoc, List.singleton_append, ← List.replicate_succ] at hbody

theorem reads_closed (k : Nat) {cs left : List Char} {ts : List Token} (h : Reads cs ts left) :
    Reads (List.replicate k ')' ++ cs) (List.replicate k closeParen ++ ts) left := by
  induction k with
  | zero => exact h
  | succ k ih =>
    have hclose : Spells [')'] (List.replicate k ')' ++ cs) closeParen := rfl
    exact ⟨[], [')'], _, rfl, nofun, hclose, ih⟩

theorem breaks_closed (k : Nat) : Breaks (List.replicate k ')' ++ "?node".toList) := by
  cases k with
  | zero => exact breaks_cons rfl _
  | succ k => exact breaks_cons rfl _

end Token

namespace Expression

def StopsBody (p : Progress) (t : Token) (fault : Fault) : Prop :=
  ∀ failure lexeme rest, lexeme.token = t →
    readBody failure p (lexeme :: rest) = .error (.unexpected lexeme fault)

/-- A token extends a body, ends it, or is the one at which it stops. -/
theorem feeds_or_ends_or_stops (p : Progress) (t : Token) : (∃ q, p.feed t = .ok q) ∨
    (∃ body, ∀ failure lexeme rest, lexeme.token = t →
      readBody failure p (lexeme :: rest) = .ok body) ∨ ∃ fault, StopsBody p t fault := by
  cases hfeed : p.feed t with
  | ok q => exact .inl ⟨q, rfl⟩
  | error fault =>
    refine .inr ?_
    -- of the tokens that a body refuses only a suffix can end it
    match t with
    | .suffix text =>
      by_cases houter : p.outer.isEmpty = true
      · cases hsuffix : readSuffix text with
        | ok r =>
          refine .inl ⟨⟨p.chain, r.1, r.2⟩, fun failure lexeme rest ht => ?_⟩
          rw [readBody, ht]
          simp only [houter, if_true, hsuffix]
          rfl
        | error fault =>
          refine .inr ⟨fault, fun failure lexeme rest ht => ?_⟩
          rw [readBody, ht]
          simp only [houter, if_true, hsuffix]
          rfl
      · refine .inr ⟨.unterminatedGroup, fun failure lexeme rest ht => ?_⟩
        rw [readBody, ht]
        simp only [houter]
        rfl
    | .eof =>
      exact .inr ⟨if p.outer.isEmpty then .missingSuffix else .unterminatedGroup,
        fun failure lexeme rest ht => by rw [readBody, ht]⟩
    | .sentinel | .slash | .openParen | .closeParen | .word _ _ | .literal _ =>
      refine .inr ⟨fault, fun failure lexeme rest ht => ?_⟩
      rw [readBody, ht]
      simp only [hfeed]
      rfl

theorem readBody_of_feedAll {failure : SyntaxError} {p q : Progress} {before : List Lexeme}
    (h : p.feedAll (before.map Lexeme.token) = .ok q) (rest : List Lexeme) :
    readBody failure p (before ++ rest) = readBody failure q rest := by
  induction before generalizing p with
  | nil =>
    obtain rfl := Except.ok.inj h
    rfl
  | cons x before ih =>
    obtain ⟨p', hx, h⟩ := ok_of_bind h
    rw [List.cons_append, readBody_of_feed hx, ih h]

theorem stopsBody_of_readBody {failure : SyntaxError} {p : Progress} {lexemes : List Lexeme}
    {lexeme : Lexeme} {fault : Fault}
    (h : readBody failure p lexemes = .error (.unexpected lexeme fault)) :
    (failure = .unexpected lexeme fault ∧ ∀ x ∈ lexemes, x.token ≠ .eof) ∨
    ∃ before after q, lexemes = before ++ lexeme :: after ∧
      p.feedAll (before.map Lexeme.token) = .ok q ∧ StopsBody q lexeme.token fault := by
  induction lexemes generalizing p with
  | nil => exact .inl ⟨Except.error.inj h, nofun⟩
  | cons x rest ih =>
    rcases feeds_or_ends_or_stops p x.token with ⟨q, hq⟩ | ⟨body, hbody⟩ | ⟨fault', hstops⟩
    · rw [readBody_of_feed hq] at h
      rcases ih h with ⟨hfailure, hrest⟩ | ⟨before, after, q', rfl, hq', hstops⟩
      · refine .inl ⟨hfailure, List.forall_mem_cons.2 ⟨fun hx => ?_, hrest⟩⟩
        rw [hx] at hq
        exact absurd hq nofun
      · refine .inr ⟨x :: before, after, q', rfl, ?_, hstops⟩
        rw [List.map_cons, Progress.feedAll, List.foldlM_cons, hq]
        exact hq'
    · rw [hbody failure x rest rfl] at h
      cases h
    · rw [hstops failure x rest rfl] at h
      obtain ⟨rfl, rfl⟩ := SyntaxError.unexpected.inj (Except.error.inj h)
      exact .inr ⟨[], rest, p, rfl, rfl, hstops⟩

/-- Tokens with which an expression may begin. -/
def Begins (ts : List Token) : Prop :=
  ts = [] ∨ ∃ referenced body, ts = sentinels referenced ++ body ∧ Token.Readable body

/-- What an error says of the tokens: either it is the one kept for their end, which is not marked,
or it names the first that is wrong. -/
def Blames (failure : SyntaxError) (lexemes : List Lexeme) (lexeme : Lexeme) (fault : Fault) :
    Prop :=
  (failure = .unexpected lexeme fault ∧ ∀ x ∈ lexemes, x.token ≠ .eof) ∨
    ∃ before after, lexemes = before ++ lexeme :: after ∧ Begins (before.map Lexeme.token) ∧
      Stops (before.map Lexeme.token) lexeme.token

theorem stops_body {referenced : Bool} {body : List Token} {q : Progress} {t : Token}
    {fault : Fault} (hq : Progress.feedAll {} body = .ok q) (hstops : StopsBody q t fault)
    (hhead : (body ++ [t]).head? ≠ some .sentinel) : Stops (sentinels referenced ++ body) t := by
  intro source failure before lexeme rest hbefore ht
  obtain ⟨front, inner, rfl, hfront, rfl⟩ := List.map_eq_append_iff.1 hbefore
  have hbody : readBody failure {} (inner ++ lexeme :: rest) =
      .error (.unexpected lexeme fault) := by
    rw [readBody_of_feedAll hq]
    exact hstops failure lexeme rest ht
  refine ⟨fault, ?_⟩
  cases inner with
  | nil =>
    have hlexeme : lexeme.token ≠ .sentinel := fun h => hhead (congrArg some (ht.symm.trans h))
    rw [List.append_nil, readLexemes_of_sentinels hfront hlexeme]
    exact congrArg (Except.map _) hbody
  | cons x inner =>
    have hx : x.token ≠ .sentinel := fun h => hhead (congrArg some h)
    rw [List.append_assoc, List.cons_append, readLexemes_of_sentinels hfront hx]
    exact congrArg (Except.map _) hbody

theorem blames_of_sentinels {source : String} {failure : SyntaxError} {referenced : Bool}
    {front rest : List Lexeme} {x lexeme : Lexeme} {fault : Fault}
    (hfront : front.map Lexeme.token = sentinels referenced) (hx : x.token ≠ .sentinel)
    (h : readLexemes source failure (front ++ x :: rest) = .error (.unexpected lexeme fault)) :
    Blames failure (front ++ x :: rest) lexeme fault := by
  rw [readLexemes_of_sentinels hfront hx] at h
  rcases stopsBody_of_readBody (eq_error_of_map h) with
    ⟨hfailure, heof⟩ | ⟨before, after, q, hsplit, hq, hstops⟩
  · refine .inl ⟨hfailure, fun y hy => ?_⟩
    rcases List.mem_append.1 hy with hy | hy
    · have hmem : y.token ∈ sentinels referenced := hfront ▸ List.mem_map_of_mem hy
      intro heq
      rw [heq] at hmem
      cases referenced <;> simp [sentinels] at hmem
    · exact heof y hy
  · have hhead : (before.map Lexeme.token ++ [lexeme.token]).head? ≠ some .sentinel := by
      cases before with
      | nil => exact fun hs => hx ((List.cons.inj hsplit).1 ▸ Option.some.inj hs)
      | cons y before => exact fun hs => hx ((List.cons.inj hsplit).1 ▸ Option.some.inj hs)
    refine .inr ⟨front ++ before, after, by rw [hsplit, List.append_assoc], .inr ?_, ?_⟩
    · exact ⟨referenced, before.map Lexeme.token, by rw [List.map_append, hfront],
        Progress.exists_feedAll_iff.1 ⟨q, hq⟩⟩
    · rw [List.map_append, hfront]
      exact stops_body hq hstops hhead

theorem blames_of_readLexemes {source : String} {failure : SyntaxError} {lexemes : List Lexeme}
    {lexeme : Lexeme} {fault : Fault}
    (h : readLexemes source failure lexemes = .error (.unexpected lexeme fault)) :
    Blames failure lexemes lexeme fault := by
  rcases readLexemes_cases lexemes with ⟨referenced, front, x, rest, rfl, hfront, hx⟩ |
    ⟨hall, hfailure⟩ | ⟨before, x, rest, rfl, hbefore, hstops⟩
  · exact blames_of_sentinels hfront hx h
  · rw [hfailure] at h
    exact .inl ⟨Except.error.inj h, fun x hx => hall x hx ▸ nofun⟩
  · obtain ⟨fault', hfault⟩ := hstops source failure before x rest rfl rfl
    rw [hfault] at h
    obtain ⟨rfl, rfl⟩ := SyntaxError.unexpected.inj (Except.error.inj h)
    refine .inr ⟨before, rest, rfl, hbefore.imp_right fun hbefore => ?_, hstops⟩
    exact ⟨true, [], by rw [hbefore, List.append_nil], Token.readable_nil⟩

theorem blamed_of_compile {text : String} {lexeme : Lexeme} {fault : Fault}
    (h : compile text = .error (.unexpected lexeme fault)) :
    ∃ before after, (Token.tokenize text).1 = before ++ lexeme :: after ∧
      Begins (before.map Lexeme.token) ∧ Stops (before.map Lexeme.token) lexeme.token := by
  rw [compile] at h
  cases htokens : Token.tokenize text with
  | mk lexemes lexical =>
    rw [htokens] at h
    cases lexical with
    | some e =>
      rcases blames_of_readLexemes h with ⟨hfailure, -⟩ | hblames
      · cases hfailure
      · exact hblames
    | none =>
      rcases blames_of_readLexemes h with ⟨-, heof⟩ | hblames
      · -- all tokens of a text end with its end
        obtain ⟨x, hx, hend⟩ : ∃ x ∈ (Token.tokenize text).1, x.token = .eof :=
          Token.exists_eof_of_readAll (Nat.lt_succ_self _) (congrArg Prod.snd htokens)
        rw [htokens] at hx
        exact absurd hend (heof x hx)
      · exact hblames

theorem not_compile_of_stops {text : String} {ts : List Token} {t : Token} (h : Stops ts t)
    (hother : ts ++ [t] <+: (Token.tokenize text).1.map Lexeme.token) (e : Expression) :
    compile text ≠ .ok e := by
  obtain ⟨failure, hcompile⟩ := compile_eq_readLexemes text
  obtain ⟨more, hmore⟩ := hother
  rw [List.append_assoc] at hmore
  obtain ⟨before, rest, hsplit, hbefore, hrest⟩ := List.map_eq_append_iff.1 hmore.symm
  obtain ⟨lexeme, after, rfl, ht, -⟩ := List.map_eq_cons_iff.1 hrest
  obtain ⟨fault, hfault⟩ := h text failure before lexeme after hbefore ht
  rw [hcompile, hsplit, hfault]
  exact nofun

/-- A text with the tokens of an expression's beginning can be continued to an expression. -/
theorem exists_compile_of_begins {front back blanks : List Char} {ts : List Token}
    (h : Token.Reads (front ++ back) ts (blanks ++ back))
    (hblanks : ∀ c ∈ blanks, isBlank c = true) (hts : Begins ts) :
    ∃ more e, compile (String.ofList (front ++ more)) = .ok e := by
  rcases hts with rfl | ⟨referenced, body, rfl, hbody⟩
  · -- only blanks so far
    have hfront : front = blanks := List.append_cancel_right h
    have hsentinel : Token.Spells ['@'] "?node".toList .sentinel := ⟨rfl, nofun⟩
    have hreads : Token.Reads (front ++ '@' :: "?node".toList) [.sentinel, .suffix "node"] [] :=
      ⟨front, ['@'], _, rfl, hfront ▸ hblanks, hsentinel, reads_suffix_node⟩
    rw [← String.toList_ofList (l := front ++ _)] at hreads
    have hmarks : Chain.marks (.empty : Chain Literal) = [].filterMap Token.mark? := rfl
    exact ⟨_, _, compile_of_reads hreads .nil isSuffix_node hmarks⟩
  · obtain ⟨k, hk⟩ : ∃ k, body.count .openParen = body.count .closeParen + k :=
      Nat.exists_eq_add_of_le hbody.count_le
    have hclosed := hbody.isBody_closed hk
    have hinner : ∀ t ∈ sentinels referenced ++ body, ∀ text, t ≠ .suffix text := by
      intro t ht
      refine no_suffix_of_isBody referenced hclosed t ?_
      rw [← List.append_assoc]
      exact List.mem_append_left _ ht
    have hfront := h.replace_back hblanks hinner (Token.breaks_closed k)
    have hend := Token.reads_closed k reads_suffix_node
    have hbreaks : Token.Reads (blanks ++ (List.replicate k ')' ++ "?node".toList))
        (List.replicate k .closeParen ++ [.suffix "node"]) [] :=
      hend.blank_append hblanks (List.append_ne_nil_of_right_ne_nil _ nofun)
    have hreads := Token.reads_append_iff.2 ⟨_, hfront, hbreaks⟩
    have htokens : sentinels referenced ++ body ++ (List.replicate k .closeParen ++
        [.suffix "node"]) = sentinels referenced ++ (body ++ List.replicate k .closeParen) ++
        [.suffix "node"] := by simp
    rw [htokens, ← String.toList_ofList (l := front ++ (List.replicate k ')' ++ "?node".toList))]
      at hreads
    obtain ⟨q, -, -, hmarks⟩ := Progress.exists_feedAll_of_isBody hclosed
    let e : Expression := ⟨"", referenced, q.chain, .node, none⟩
    exact ⟨_, _, compile_eq_of_reads (e := e) hreads hclosed isSuffix_node hmarks⟩

/-- An error of the syntax names a token of the text and the place where it stands. What precedes
that place can be continued to an expression; no text that has the same tokens, up to this one, is
an expression. -/
theorem compile_blames_first_wrong_token {text : String} {lexeme : Lexeme} {fault : Fault}
    (h : compile text = .error (.unexpected lexeme fault)) :
    let error := SyntaxError.unexpected lexeme fault
    let front := text.toList.take error.position.offset
    let back := text.toList.drop error.position.offset
    error.position = Position.after {} front ∧
      (∃ rest, Token.read error.position back = .ok (lexeme.token, rest)) ∧
      error.message = "syntax error at " ++ error.position.text ++ " near '" ++
        lexeme.token.describe ++ "': " ++ fault.message ∧
      (∃ more e, compile (String.ofList (front ++ more)) = .ok e) ∧
      ∃ before after, (Token.tokenize text).1 = before ++ lexeme :: after ∧
        ∀ other, (before ++ [lexeme]).map Lexeme.token <+:
          (Token.tokenize other).1.map Lexeme.token → ∀ e, compile other ≠ .ok e := by
  intro error front back
  obtain ⟨before, after, htokens, hbegins, hstops⟩ := blamed_of_compile h
  obtain ⟨front', back', rest, blanks, htext, hstart, hread, hblanks, hreads⟩ :=
    Token.place_of_readAll htokens
  -- the offset of the place is the number of characters before it
  have hoffset : front'.length = error.position.offset := by
    show _ = lexeme.start.offset
    rw [hstart, Position.offset_after, Nat.zero_add]
  have hfront : front = front' := by
    show text.toList.take _ = _
    rw [htext, ← hoffset, List.take_left]
  have hback : back = back' := by
    show text.toList.drop _ = _
    rw [htext, ← hoffset, List.drop_left]
  have hmore : ∃ more e, compile (String.ofList (front ++ more)) = .ok e := by
    rw [htext] at hreads
    rw [hfront]
    exact exists_compile_of_begins hreads hblanks hbegins
  refine ⟨hfront ▸ hstart, ⟨rest, hback ▸ hread⟩, rfl, hmore, before, after, htokens, ?_⟩
  intro other hother
  rw [List.map_append] at hother
  exact not_compile_of_stops hstops hother

/-- An operator that is joined to a name, on the second line. -/
theorem compile_blames_first_wrong_token_operator :
    let lexeme : Lexeme := ⟨.word "!error" false, ⟨7, 2, 4⟩⟩
    compile "@/*\n  /!error?name" = .error (.unexpected lexeme (.operatorOperand .not)) ∧
      (∃ more e, compile (String.ofList ("@/*\n  /".toList ++ more)) = .ok e) ∧
      ∃ before after, (Token.tokenize "@/*\n  /!error?name").1 = before ++ lexeme :: after ∧
        ∀ other, (before ++ [lexeme]).map Lexeme.token <+:
          (Token.tokenize other).1.map Lexeme.token → ∀ e, compile other ≠ .ok e := by
  intro lexeme
  have h : compile "@/*\n  /!error?name" =
      .error (.unexpected lexeme (.operatorOperand .not)) := by
    dsimp only [lexeme]
    rfl
  obtain ⟨-, -, -, hmore, hothers⟩ := compile_blames_first_wrong_token h
  exact ⟨h, hmore, hothers⟩

end Expression
end TreeQuery
