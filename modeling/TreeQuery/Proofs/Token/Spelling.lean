import TreeQuery.Token.Lexer

namespace TreeQuery.Token

/-- No bare word goes on with this text. -/
def Breaks (cs : List Char) : Prop := ∀ c ∈ cs.head?, isDelimiter c = true

/-- The characters spell the letters of a bare word. -/
inductive SpellsWord : List Char → List Char → Prop
  | nil : SpellsWord [] []
  | plain {c : Char} {cs letters : List Char} (hc : isDelimiter c = false) (hescape : c ≠ '\\')
      (h : SpellsWord cs letters) : SpellsWord (c :: cs) (c :: letters)
  | escaped {c : Char} {cs letters : List Char} (h : SpellsWord cs letters) :
      SpellsWord ('\\' :: c :: cs) (c :: letters)

theorem breaks_nil : Breaks [] := by
  intro c hc
  exact absurd hc (Option.not_mem_none c)

theorem breaks_cons {c : Char} (hc : isDelimiter c = true) (cs : List Char) : Breaks (c :: cs) := by
  intro d hd
  obtain rfl : c = d := Option.some.inj hd
  exact hc

theorem breaks_append {blanks cs : List Char} (hblanks : ∀ c ∈ blanks, isBlank c = true)
    (h : Breaks cs) : Breaks (blanks ++ cs) := by
  cases blanks with
  | nil => exact h
  | cons b blanks =>
    have hb : isBlank b = true := hblanks b List.mem_cons_self
    exact breaks_cons (by rw [isDelimiter, hb, Bool.or_true]) _

theorem head?_ne_quote {cs : List Char} (h : Breaks cs) : cs.head? ≠ some '"' := by
  intro hhead
  have hquote : isDelimiter '"' = true := h '"' hhead
  exact absurd hquote (by decide)

theorem readWord_of_breaks (before : Nat) {cs : List Char} (h : Breaks cs) :
    readWord before cs = .ok ([], cs) := by
  cases cs with
  | nil => rfl
  | cons c cs =>
    have hc : isDelimiter c = true := h c rfl
    have hescape : c ≠ '\\' := by
      rintro rfl
      exact absurd hc (by decide)
    unfold readWord
    split
    · next heq => exact absurd heq nofun
    · next heq => exact absurd (List.cons.inj heq).1 hescape
    · next heq => exact absurd (List.cons.inj heq).1 hescape
    · next heq =>
      obtain ⟨rfl, rfl⟩ := List.cons.inj heq
      rw [if_pos hc]

theorem readWord_letter {before : Nat} {c : Char} {cs letters rest : List Char}
    (hc : isDelimiter c = false) (hescape : c ≠ '\\')
    (h : readWord (before + 1) cs = .ok (letters, rest)) :
    readWord before (c :: cs) = .ok (c :: letters, rest) := by
  rw [readWord, if_neg (by rw [hc]; exact Bool.false_ne_true), h]
  · rfl
  · exact fun he _ => hescape he
  · exact fun _ _ he _ => hescape he

theorem eq_ok_of_letter {c : Char} {letters rest : List Char}
    {r : Except Nat (List Char × List Char)}
    (h : (do let (letters, rest) ← r; return (c :: letters, rest)) = .ok (letters, rest)) :
    ∃ l, r = .ok (l, rest) ∧ letters = c :: l := by
  cases r with
  | error e => exact absurd h nofun
  | ok p =>
    obtain ⟨l, rest'⟩ := p
    obtain ⟨hl, rfl⟩ := Prod.mk.inj (Except.ok.inj h)
    exact ⟨l, rfl, hl.symm⟩

/-- A backslash that stands neither alone nor before another character is none. -/
theorem ne_backslash {c : Char} {cs : List Char} (hlone : c = '\\' → cs = [] → False)
    (hescape : ∀ d ds, c = '\\' → cs = d :: ds → False) : c ≠ '\\' := by
  intro hc
  cases cs with
  | nil => exact hlone hc rfl
  | cons d ds => exact hescape d ds hc rfl

theorem readWord_eq_ok_iff {before : Nat} {cs letters rest : List Char} :
    readWord before cs = .ok (letters, rest) ↔
      ∃ front, cs = front ++ rest ∧ SpellsWord front letters ∧ Breaks rest := by
  constructor
  · intro h
    fun_induction readWord before cs generalizing letters with
    | case1 =>
      obtain ⟨rfl, rfl⟩ := Prod.mk.inj (Except.ok.inj h)
      exact ⟨[], rfl, .nil, breaks_nil⟩
    | case2 => exact absurd h nofun
    | case3 before c cs ih =>
      obtain ⟨l, hl, rfl⟩ := eq_ok_of_letter h
      obtain ⟨front, rfl, hfront, hrest⟩ := ih hl
      exact ⟨'\\' :: c :: front, rfl, .escaped hfront, hrest⟩
    | case4 before c cs _ _ hc =>
      obtain ⟨rfl, rfl⟩ := Prod.mk.inj (Except.ok.inj h)
      exact ⟨[], rfl, .nil, breaks_cons hc cs⟩
    | case5 before c cs hlone hescape hc ih =>
      obtain ⟨l, hl, rfl⟩ := eq_ok_of_letter h
      obtain ⟨front, rfl, hfront, hrest⟩ := ih hl
      have hc' : isDelimiter c = false := Bool.eq_false_iff.2 hc
      exact ⟨c :: front, rfl, .plain hc' (ne_backslash hlone hescape) hfront, hrest⟩
  · rintro ⟨front, rfl, hfront, hrest⟩
    induction hfront generalizing before with
    | nil => exact readWord_of_breaks before hrest
    | plain hc hescape _ ih => exact readWord_letter hc hescape ih
    | @escaped c cs letters _ ih =>
      show readWord before ('\\' :: c :: (cs ++ rest)) = _
      rw [readWord, ih]
      rfl

def doubled (cs : List Char) : List Char := cs.flatMap fun c => if c = '"' then ['"', '"'] else [c]

def guarded (cs : List Char) : List Char :=
  cs.flatMap fun c => if c = '\\' ∨ c = '"' then ['\\', c] else [c]

/-- The characters between quotation marks spell a text. -/
inductive SpellsQuoted : List Char → List Char → Prop
  | nil : SpellsQuoted [] []
  | plain {c : Char} {cs text : List Char} (hquote : c ≠ '"') (hescape : c ≠ '\\')
      (h : SpellsQuoted cs text) : SpellsQuoted (c :: cs) (c :: text)
  | escaped {c : Char} {cs text : List Char} (h : SpellsQuoted cs text) :
      SpellsQuoted ('\\' :: c :: cs) (unescape c ++ text)

theorem eq_some_of_letters {f : List Char → List Char} {text rest : List Char}
    {r : Option (List Char × List Char)} (h : r.map (fun p => (f p.1, p.2)) = some (text, rest)) :
    ∃ l, r = some (l, rest) ∧ text = f l := by
  obtain ⟨⟨l, rest'⟩, hl, heq⟩ := Option.map_eq_some_iff.1 h
  obtain ⟨htext, rfl⟩ := Prod.mk.inj heq
  exact ⟨l, hl, htext.symm⟩

theorem readQuoted_eq_some_iff {cs text rest : List Char} :
    readQuoted cs = some (text, rest) ↔
      ∃ inner, cs = inner ++ '"' :: rest ∧ SpellsQuoted inner text := by
  constructor
  · intro h
    fun_induction readQuoted cs generalizing text with
    | case1 => exact absurd h nofun
    | case2 cs =>
      obtain ⟨rfl, rfl⟩ := Prod.mk.inj (Option.some.inj h)
      exact ⟨[], rfl, .nil⟩
    | case3 => exact absurd h nofun
    | case4 c cs ih =>
      obtain ⟨l, hl, rfl⟩ := eq_some_of_letters h
      obtain ⟨inner, rfl, hinner⟩ := ih hl
      exact ⟨'\\' :: c :: inner, rfl, .escaped hinner⟩
    | case5 c cs hquote hlone hescape ih =>
      obtain ⟨l, hl, rfl⟩ := eq_some_of_letters h
      obtain ⟨inner, rfl, hinner⟩ := ih hl
      exact ⟨c :: inner, rfl, .plain hquote (ne_backslash hlone hescape) hinner⟩
  · rintro ⟨inner, rfl, hinner⟩
    induction hinner with
    | nil => rfl
    | @plain c cs text hquote hescape _ ih =>
      show readQuoted (c :: (cs ++ '"' :: rest)) = _
      rw [readQuoted, ih]
      · rfl
      · exact hquote
      · exact fun he _ => hescape he
      · exact fun _ _ he _ => hescape he
    | @escaped c cs text _ ih =>
      show readQuoted ('\\' :: c :: (cs ++ '"' :: rest)) = _
      rw [readQuoted, ih]
      rfl

theorem doubled_cons_quote (cs : List Char) : doubled ('"' :: cs) = '"' :: '"' :: doubled cs := rfl

theorem doubled_cons {c : Char} (hc : c ≠ '"') (cs : List Char) :
    doubled (c :: cs) = c :: doubled cs := by
  rw [doubled, List.flatMap_cons, if_neg hc]
  rfl

/-- A verbatim literal ends with a mark that no other one follows. -/
theorem readVerbatim_eq_some_iff {cs text rest : List Char} :
    readVerbatim cs = some (text, rest) ↔
      cs = doubled text ++ '"' :: rest ∧ rest.head? ≠ some '"' := by
  constructor
  · intro h
    fun_induction readVerbatim cs generalizing text with
    | case1 => exact absurd h nofun
    | case2 cs ih =>
      obtain ⟨l, hl, rfl⟩ := eq_some_of_letters h
      obtain ⟨rfl, hrest⟩ := ih hl
      exact ⟨rfl, hrest⟩
    | case3 cs hsecond =>
      obtain ⟨rfl, rfl⟩ := Prod.mk.inj (Option.some.inj h)
      refine ⟨rfl, fun hhead => ?_⟩
      cases cs with
      | nil => exact absurd hhead nofun
      | cons d ds => exact hsecond ds (congrArg (· :: ds) (Option.some.inj hhead))
    | case4 c cs hsecond hquote ih =>
      obtain ⟨l, hl, rfl⟩ := eq_some_of_letters h
      obtain ⟨rfl, hrest⟩ := ih hl
      exact ⟨by rw [doubled_cons hquote, List.cons_append], hrest⟩
  · rintro ⟨rfl, hrest⟩
    -- a mark in the text is written twice, so the reader goes on behind it
    induction text with
    | nil =>
      show readVerbatim ('"' :: rest) = _
      rw [readVerbatim]
      rintro tail rfl
      exact hrest rfl
    | cons c text ih =>
      by_cases hc : c = '"'
      · subst hc
        rw [doubled_cons_quote]
        show readVerbatim ('"' :: '"' :: (doubled text ++ '"' :: rest)) = _
        rw [readVerbatim, ih]
        rfl
      · rw [doubled_cons hc, List.cons_append, readVerbatim, ih]
        · rfl
        · exact fun _ he _ => hc he
        · exact hc

theorem spellsQuoted_guarded (cs : List Char) : SpellsQuoted (guarded cs) cs := by
  induction cs with
  | nil => exact .nil
  | cons c cs ih =>
    rw [guarded, List.flatMap_cons, ← guarded]
    by_cases hc : c = '\\' ∨ c = '"'
    · have hunescape : unescape c = [c] := by
        rcases hc with rfl | rfl <;> rfl
      have hcons : c :: cs = unescape c ++ cs := by rw [hunescape, List.singleton_append]
      rw [if_pos hc, hcons]
      exact .escaped ih
    · obtain ⟨hescape, hquote⟩ := not_or.1 hc
      rw [if_neg hc]
      exact .plain hquote hescape ih

/-- The characters spell a token if `rest` comes after them. -/
def Spells (front rest : List Char) : Token → Prop
  | sentinel => front = ['@'] ∧ rest.head? ≠ some '"'
  | slash => front = ['/']
  | openParen => front = ['(']
  | closeParen => front = [')']
  | word text escaped =>
    (∃ c ∈ front.head?, c ≠ '@' ∧ c ≠ '"' ∧ (c == '\\') = escaped) ∧
      SpellsWord front text.toList ∧ Breaks rest
  | literal text =>
    (front = '@' :: '"' :: doubled text.toList ++ ['"'] ∧ rest.head? ≠ some '"') ∨
      ∃ inner, front = '"' :: inner ++ ['"'] ∧ SpellsQuoted inner text.toList
  | suffix text => rest = [] ∧ ∃ tail, front = '?' :: tail ∧ text = String.ofList (Text.trim tail)
  | eof => False

theorem literalAt_eq_ok_iff {p : Position} {r : Option (List Char × List Char)} {t : Token}
    {rest : List Char} : literalAt p r = .ok (t, rest) ↔
      ∃ text : String, t = .literal text ∧ r = some (text.toList, rest) := by
  cases r with
  | none =>
    constructor
    · exact nofun
    · rintro ⟨text, -, h⟩
      exact absurd h nofun
  | some q =>
    obtain ⟨text, rest'⟩ := q
    constructor
    · intro h
      obtain ⟨rfl, rfl⟩ := Prod.mk.inj (Except.ok.inj h)
      exact ⟨_, rfl, by rw [String.toList_ofList]⟩
    · rintro ⟨text', rfl, h⟩
      obtain ⟨rfl, rfl⟩ := Prod.mk.inj (Option.some.inj h)
      rw [literalAt, String.ofList_toList]

theorem head?_of_spellsWord {front letters : List Char} (h : SpellsWord front letters) :
    ∀ c ∈ front.head?, isDelimiter c = false := by
  intro c hc
  cases h with
  | nil => exact absurd hc (Option.not_mem_none c)
  | plain hd _ _ => exact Option.some.inj hc ▸ hd
  | escaped _ => exact Option.some.inj hc ▸ rfl

theorem read_of_readWord (start : Position) {c : Char} {cs letters rest : List Char}
    (hc : isDelimiter c = false) (hsentinel : c ≠ '@') (hquote : c ≠ '"')
    (h : readWord 0 (c :: cs) = .ok (letters, rest)) :
    read start (c :: cs) = .ok (.word (String.ofList letters) (c == '\\'), rest) := by
  have hmark {d : Char} (hd : isDelimiter d = true) : c ≠ d := by
    rintro rfl
    exact absurd hd (by rw [hc]; exact Bool.false_ne_true)
  unfold read
  split
  case h_9 => rw [h]; simp
  case h_1 heq => exact absurd heq nofun
  case h_6 heq | h_7 heq => exact absurd (List.cons.inj heq).1 hsentinel
  case h_8 heq => exact absurd (List.cons.inj heq).1 hquote
  all_goals
    next heq => exact absurd (List.cons.inj heq).1 (hmark (by decide))

theorem read_of_spells (start : Position) {front rest : List Char} {t : Token}
    (h : Spells front rest t) : read start (front ++ rest) = .ok (t, rest) := by
  match t with
  | sentinel =>
    obtain ⟨rfl, hrest⟩ := h
    cases rest with
    | nil => rfl
    | cons c cs =>
      show read start ('@' :: c :: cs) = _
      unfold read
      split
      case h_7 heq => rw [(List.cons.inj heq).2]
      case h_6 heq => exact absurd (congrArg List.head? (List.cons.inj heq).2) hrest
      case h_9 hverbatim hsentinel _ => exact absurd rfl (hsentinel (c :: cs))
      all_goals
        next heq => exact absurd heq (by simp)
  | slash | openParen | closeParen =>
    rw [Spells] at h
    subst h
    rfl
  | word text escaped =>
    obtain ⟨⟨c, hhead, hsentinel, hquote, hescaped⟩, hfront, hrest⟩ := h
    have hc : isDelimiter c = false := head?_of_spellsWord hfront c hhead
    have hread : readWord 0 (front ++ rest) = .ok (text.toList, rest) :=
      readWord_eq_ok_iff.2 ⟨front, rfl, hfront, hrest⟩
    cases front with
    | nil => exact absurd hhead (Option.not_mem_none c)
    | cons d front =>
      obtain rfl : d = c := Option.some.inj hhead
      rw [List.cons_append] at hread ⊢
      rw [read_of_readWord start hc hsentinel hquote hread, hescaped, String.ofList_toList]
  | literal text =>
    rcases h with ⟨rfl, hrest⟩ | ⟨inner, rfl, hinner⟩
    · have hread : readVerbatim (doubled text.toList ++ ['"'] ++ rest) =
          some (text.toList, rest) := by
        rw [List.append_assoc]
        exact readVerbatim_eq_some_iff.2 ⟨rfl, hrest⟩
      show literalAt start (readVerbatim (doubled text.toList ++ ['"'] ++ rest)) = _
      rw [hread, literalAt, String.ofList_toList]
    · have hread : readQuoted (inner ++ ['"'] ++ rest) = some (text.toList, rest) := by
        rw [List.append_assoc]
        exact readQuoted_eq_some_iff.2 ⟨inner, rfl, hinner⟩
      show literalAt start (readQuoted (inner ++ ['"'] ++ rest)) = _
      rw [hread, literalAt, String.ofList_toList]
  | suffix text =>
    obtain ⟨rfl, tail, rfl, rfl⟩ := h
    rw [List.append_nil]
    rfl
  | eof => exact absurd h id

theorem not_breaks {cs : List Char} (hcs : ∀ c ∈ cs.head?, isBlank c = false) (hnil : cs ≠ [])
    (hslash : ∀ tail, cs ≠ '/' :: tail) (hopen : ∀ tail, cs ≠ '(' :: tail)
    (hclose : ∀ tail, cs ≠ ')' :: tail) (hquestion : ∀ tail, cs ≠ '?' :: tail) : ¬ Breaks cs := by
  intro h
  cases cs with
  | nil => exact absurd rfl hnil
  | cons c cs =>
    have hc := h c rfl
    have hblank := hcs c rfl
    simp only [isDelimiter, hblank, Bool.or_false, Bool.or_eq_true, beq_iff_eq] at hc
    rcases hc with ((rfl | rfl) | rfl) | rfl
    · exact absurd rfl (hslash cs)
    · exact absurd rfl (hopen cs)
    · exact absurd rfl (hclose cs)
    · exact absurd rfl (hquestion cs)

theorem spells_of_read {start : Position} {cs rest : List Char} {t : Token}
    (hcs : ∀ c ∈ cs.head?, isBlank c = false) (hne : cs ≠ []) (h : read start cs = .ok (t, rest)) :
    ∃ front, cs = front ++ rest ∧ Spells front rest t := by
  unfold read at h
  split at h
  case h_1 => exact absurd rfl hne
  case h_2 | h_3 | h_4 =>
    obtain ⟨rfl, rfl⟩ := Prod.mk.inj (Except.ok.inj h)
    exact ⟨[_], rfl, rfl⟩
  case h_5 tail =>
    obtain ⟨rfl, rfl⟩ := Prod.mk.inj (Except.ok.inj h)
    exact ⟨'?' :: tail, (List.append_nil _).symm, rfl, tail, rfl, rfl⟩
  case h_6 tail =>
    obtain ⟨text, rfl, hread⟩ := literalAt_eq_ok_iff.1 h
    obtain ⟨rfl, hrest⟩ := readVerbatim_eq_some_iff.1 hread
    refine ⟨'@' :: '"' :: doubled text.toList ++ ['"'], ?_, .inl ⟨rfl, hrest⟩⟩
    simp
  case h_7 tail hverbatim =>
    obtain ⟨rfl, rfl⟩ := Prod.mk.inj (Except.ok.inj h)
    refine ⟨['@'], rfl, rfl, fun hhead => ?_⟩
    cases tail with
    | nil => exact absurd hhead nofun
    | cons d ds => exact hverbatim ds (congrArg (· :: ds) (Option.some.inj hhead))
  case h_8 tail =>
    obtain ⟨text, rfl, hread⟩ := literalAt_eq_ok_iff.1 h
    obtain ⟨inner, rfl, hinner⟩ := readQuoted_eq_some_iff.1 hread
    refine ⟨'"' :: inner ++ ['"'], ?_, .inr ⟨inner, rfl, hinner⟩⟩
    simp
  case h_9 hnil hslash hopen hclose hquestion hverbatim hsentinel hquote =>
    cases hread : readWord 0 cs with
    | error before => rw [hread] at h; exact absurd h nofun
    | ok p =>
      obtain ⟨letters, rest'⟩ := p
      rw [hread] at h
      obtain ⟨rfl, rfl⟩ := Prod.mk.inj (Except.ok.inj h)
      obtain ⟨front, rfl, hfront, hrest⟩ := readWord_eq_ok_iff.1 hread
      refine ⟨front, rfl, ?_, String.toList_ofList ▸ hfront, hrest⟩
      cases front with
      | nil => exact absurd hrest (not_breaks hcs hnil hslash hopen hclose hquestion)
      | cons c front =>
        refine ⟨c, rfl, ?_, ?_, ?_⟩
        · rintro rfl
          exact hsentinel _ rfl
        · rintro rfl
          exact hquote _ rfl
        · rfl

theorem head?_of_spells {front rest : List Char} {t : Token} (h : Spells front rest t) :
    ∃ c ∈ front.head?, isBlank c = false := by
  match t with
  | sentinel =>
    obtain ⟨rfl, -⟩ := h
    exact ⟨'@', rfl, by decide⟩
  | slash | openParen | closeParen =>
    rw [Spells] at h
    subst h
    exact ⟨_, rfl, by decide⟩
  | word text escaped =>
    obtain ⟨⟨c, hhead, -⟩, hfront, -⟩ := h
    have hc : isDelimiter c = false := head?_of_spellsWord hfront c hhead
    rw [isDelimiter, Bool.or_eq_false_iff] at hc
    exact ⟨c, hhead, hc.2⟩
  | literal text =>
    rcases h with ⟨rfl, -⟩ | ⟨inner, rfl, -⟩
    · exact ⟨'@', rfl, by decide⟩
    · exact ⟨'"', rfl, by decide⟩
  | suffix text =>
    obtain ⟨-, tail, rfl, -⟩ := h
    exact ⟨'?', rfl, by decide⟩
  | eof => exact absurd h id

/-- What comes after a token can be replaced by what begins in the same way, or with what breaks
words as well. A suffix takes all that comes after it. -/
theorem Spells.replace {front rest rest' : List Char} {t : Token} (h : Spells front rest t)
    (ht : ∀ text, t ≠ .suffix text) (hbreaks : Breaks rest → Breaks rest')
    (hquote : rest.head? ≠ some '"' → rest'.head? ≠ some '"') : Spells front rest' t := by
  match t with
  | sentinel => exact ⟨h.1, hquote h.2⟩
  | slash | openParen | closeParen => exact h
  | word text escaped => exact ⟨h.1, h.2.1, hbreaks h.2.2⟩
  | literal text => exact h.imp_left fun h => ⟨h.1, hquote h.2⟩
  | suffix text => exact absurd rfl (ht text)
  | eof => exact h

end TreeQuery.Token
