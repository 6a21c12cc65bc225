import TreeQuery.Proofs.Expression.Layout
import TreeQuery.Proofs.Expression.Selector

namespace TreeQuery

namespace Selector

/-- A letter of a word is a letter of a text in its selector: of a name, of a value or of the name
of a type. -/
def Carries (letters : List Char) (i : Nat) : Selector Literal → Prop
  | .named name => name.toList = letters
  | .ancestor name => 2 ≤ i ∧ letters = '.' :: '.' :: name.toList
  | .equals (.plain text) => 1 ≤ i ∧ letters = '=' :: text.toList
  | .equals (.typed typeName text) => 2 ≤ i ∧ i ≠ 2 + typeName.toList.length ∧
      letters = '=' :: ':' :: (typeName.toList ++ ':' :: text.toList)
  | _ => False

/-- A letter of a word takes part in a symbol, in a number, in a range, or in a mark around the name
of a type. -/
inductive TakesPart (letters : List Char) (i : Nat) : Prop
  | symbol (h : letters = ['*', '*'] ∨ letters = ['.', '.'])
  | number (h : isDigits letters = true)
  | offset {digits : List Char} (h : letters = '+' :: digits ∨ letters = '-' :: digits)
      (hdigits : isDigits digits = true)
  | range {rest : List Char} (h : letters = '[' :: rest)
  | everyNth {rest : List Char} (h : letters = '%' :: rest)
  | ancestor {name : List Char} (h : letters = '.' :: '.' :: name) (hi : i < 2)
  | typed {rest : List Char} (h : letters = '=' :: ':' :: rest) (hi : i < 2)
  | separator {name text : List Char} (h : letters = '=' :: ':' :: (name ++ ':' :: text))
      (hname : ':' ∉ name) (hi : i = 2 + name.length)

variable {letters : List Char} {i : Nat} {s : Selector Literal}

theorem not_carries_iff (hpart : TakesPart letters i) (h : ¬ s.Carries letters i) :
    s.Carries letters i ↔ ¬ TakesPart letters i :=
  ⟨fun hc => absurd hc h, fun hn => absurd hpart hn⟩

theorem isDigits_cons_of_not {c : Char} (hc : c.isDigit = false) (cs : List Char) :
    isDigits (c :: cs) = false := by
  simp [isDigits, hc]

theorem lt_two_of_points {name : List Char} (h : TakesPart ('.' :: '.' :: name) i)
    (hlt : i < name.length + 2) : i < 2 := by
  cases h with
  | ancestor _ hi => exact hi
  | number hd => exact absurd hd (by rw [isDigits_cons_of_not rfl]; exact Bool.false_ne_true)
  | symbol heq =>
    rcases heq with heq | heq
    · exact absurd heq (by simp)
    · obtain rfl : name = [] := by simpa using heq
      exact hlt
  | offset heq => exact absurd heq (by simp)
  | range heq | everyNth heq | typed heq | separator heq => exact absurd heq (by simp)

theorem mark_of_equals {cs : List Char} (h : TakesPart ('=' :: cs) i) :
    (∃ rest, cs = ':' :: rest ∧ i < 2) ∨
      ∃ name text, cs = ':' :: (name ++ ':' :: text) ∧ ':' ∉ name ∧ i = 2 + name.length := by
  cases h with
  | typed heq hi => exact .inl ⟨_, (List.cons.inj heq).2, hi⟩
  | separator heq hname hi => exact .inr ⟨_, _, (List.cons.inj heq).2, hname, hi⟩
  | number hd => exact absurd hd (by rw [isDigits_cons_of_not rfl]; exact Bool.false_ne_true)
  | symbol heq | offset heq => exact absurd heq (by simp)
  | range heq | everyNth heq | ancestor heq => exact absurd heq (by simp)

theorem carries_ancestor_iff {name : List Char} (hlt : i < name.length + 2) :
    (ancestor (String.ofList name)).Carries ('.' :: '.' :: name) i ↔
      ¬ TakesPart ('.' :: '.' :: name) i := by
  rw [Carries, String.toList_ofList]
  constructor
  · rintro ⟨hi, -⟩ hpart
    exact absurd (lt_two_of_points hpart hlt) (Nat.not_lt.2 hi)
  · intro hpart
    exact ⟨Nat.not_lt.1 fun hi => hpart (.ancestor rfl hi), rfl⟩

theorem carries_plain_iff {text : List Char} (hi : 0 < i) (htext : ∀ rest, text ≠ ':' :: rest) :
    (equals (.plain (String.ofList text))).Carries ('=' :: text) i ↔
      ¬ TakesPart ('=' :: text) i := by
  rw [Carries, String.toList_ofList]
  refine ⟨fun _ hpart => ?_, fun _ => ⟨hi, rfl⟩⟩
  obtain ⟨rest, hrest, -⟩ | ⟨name, rest, hrest, -⟩ := mark_of_equals hpart
  · exact htext rest hrest
  · exact htext _ hrest

/-- Only the first colon after the name of a type divides it from the text. -/
theorem length_eq_of_separator {name name' text text' : List Char} (hname : ':' ∉ name)
    (hname' : ':' ∉ name') (h : name ++ ':' :: text = name' ++ ':' :: text') :
    name.length = name'.length := by
  have hcut : cutAt? ':' (name ++ ':' :: text) = some (name, text) :=
    cutAt?_eq_some_iff.2 ⟨rfl, hname⟩
  have hcut' : cutAt? ':' (name ++ ':' :: text) = some (name', text') :=
    cutAt?_eq_some_iff.2 ⟨h, hname'⟩
  rw [(Prod.mk.inj (Option.some.inj (hcut.symm.trans hcut'))).1]

theorem carries_typed_iff {name text : List Char} (hname : ':' ∉ name) :
    (equals (.typed (String.ofList name) (String.ofList text))).Carries
        ('=' :: ':' :: (name ++ ':' :: text)) i ↔
      ¬ TakesPart ('=' :: ':' :: (name ++ ':' :: text)) i := by
  rw [Carries, String.toList_ofList, String.toList_ofList]
  constructor
  · rintro ⟨hi, hne, -⟩ hpart
    obtain ⟨-, -, hlt⟩ | ⟨name', text', hsplit, hname', hi'⟩ := mark_of_equals hpart
    · exact absurd hlt (Nat.not_lt.2 hi)
    · rw [length_eq_of_separator hname hname' (List.cons.inj hsplit).2] at hne
      exact hne hi'
  · intro hpart
    refine ⟨Nat.not_lt.1 fun hi => hpart (.typed rfl hi), fun hi => ?_, rfl⟩
    exact hpart (.separator rfl hname hi)

theorem carries_equals_iff {cs : List Char} {l : Literal} (h : literal cs = .ok l) (hi : 0 < i) :
    (equals l).Carries ('=' :: cs) i ↔ ¬ TakesPart ('=' :: cs) i := by
  unfold literal at h
  split at h
  · split at h
    · next hcut =>
      obtain rfl := Except.ok.inj h
      obtain ⟨rfl, hname⟩ := cutAt?_eq_some_iff.1 hcut
      exact carries_typed_iff hname
    · cases h
  · next hcolon =>
    obtain rfl := Except.ok.inj h
    exact carries_plain_iff hi hcolon

theorem exists_range_of_range? {cs : List Char} (h : range? cs = .ok s) :
    ∃ start stop, s = range start stop := by
  rw [range?] at h
  split at h
  · obtain ⟨start, -, h⟩ := ok_of_bind h
    obtain ⟨stop, -, h⟩ := ok_of_bind h
    exact ⟨start, stop, (Except.ok.inj h).symm⟩
  · cases h

theorem IsName.not_takesPart (h : IsName letters) : ¬ TakesPart letters i := by
  intro hpart
  cases hpart with
  | symbol heq => exact heq.elim h.stars (h.points [])
  | number hd => exact absurd hd (Bool.eq_false_iff.1 h.digits)
  | offset heq hd =>
    rcases heq with heq | heq
    · exact absurd hd (Bool.eq_false_iff.1 (h.plus _ heq))
    · exact absurd hd (Bool.eq_false_iff.1 (h.minus _ heq))
  | range heq => exact h.bracket _ heq
  | everyNth heq => exact h.percent _ heq
  | ancestor heq => exact h.points _ heq
  | typed heq | separator heq => exact h.equals _ heq

/-- Of the letters after the first one, those that take no part in anything else stand in the text
of the selector. -/
theorem carries_iff (h : ofWord letters = .ok s) (hi : 0 < i) (hlt : i < letters.length) :
    s.Carries letters i ↔ ¬ TakesPart letters i := by
  cases reading_of_ofWord h with
  | descendants => exact not_carries_iff (.symbol (.inl rfl)) id
  | root => exact not_carries_iff (.symbol (.inr rfl)) id
  | ancestor => exact carries_ancestor_iff hlt
  | numbered hdigits => exact not_carries_iff (.number hdigits) id
  | sibling hsign hdigits =>
    refine not_carries_iff (.offset ?_ hdigits) id
    exact hsign.imp (fun h => congrArg (· :: _) h.1) fun h => congrArg (· :: _) h.1
  | range hrange =>
    obtain ⟨start, stop, rfl⟩ := exists_range_of_range? hrange
    exact not_carries_iff (.range rfl) id
  | everyNth => exact not_carries_iff (.everyNth rfl) id
  | equals hl => exact carries_equals_iff hl hi
  | named hname => exact iff_of_true String.toList_ofList hname.not_takesPart
  | _ =>
    -- the other symbols have one letter
    simp at hlt
    omega

end Selector

theorem SetOp.ofText?_of_two_le {letters : List Char} (h : 2 ≤ letters.length) :
    ofText? (String.ofList letters) = none := by
  match letters with
  | [] | [_] => simp at h
  | _ :: _ :: _ => rw [ofText?, String.toList_ofList]

namespace Token

theorem SpellsWord.append {front back letters letters' : List Char}
    (h : SpellsWord front letters) (h' : SpellsWord back letters') :
    SpellsWord (front ++ back) (letters ++ letters') := by
  induction h with
  | nil => exact h'
  | plain hc hescape _ ih => exact .plain hc hescape ih
  | escaped _ ih => exact .escaped ih

def BeginsWord (cs : List Char) : Prop := ∃ c ∈ cs.head?, c ≠ '@' ∧ c ≠ '"' ∧ c ≠ '\\'

theorem BeginsWord.append {front : List Char} (h : BeginsWord front) (back : List Char) :
    BeginsWord (front ++ back) := by
  obtain ⟨c, hc, h⟩ := h
  exact ⟨c, List.mem_head?_append_of_mem_head? hc, h⟩

theorem BeginsWord.length_pos {front letters : List Char} (h : BeginsWord front)
    (hfront : SpellsWord front letters) : 0 < letters.length := by
  obtain ⟨c, hc, -⟩ := h
  cases hfront with
  | nil => exact absurd hc (Option.not_mem_none c)
  | plain | escaped => exact Nat.succ_pos _

theorem selector?_of_two_le {letters : List Char} (h : 2 ≤ letters.length) :
    (word (String.ofList letters) false).selector? = some (Selector.ofWord letters) := by
  simp [selector?, SetOp.ofText?_of_two_le h]

end Token

namespace Expression

def textOfWord (word : List Char) : String :=
  String.ofList ('@' :: '/' :: (word ++ "?node".toList))

theorem reads_textOfWord {word letters : List Char} (hword : Token.SpellsWord word letters)
    (hbegins : Token.BeginsWord word) : Token.Reads (textOfWord word).toList
      (.sentinel :: [.slash, .word (String.ofList letters) false] ++ [.suffix "node"]) [] := by
  have hspells : Token.Spells word "?node".toList (.word (String.ofList letters) false) := by
    obtain ⟨c, hc, hsentinel, hquote, hescape⟩ := hbegins
    refine ⟨⟨c, hc, hsentinel, hquote, beq_eq_false_iff_ne.2 hescape⟩, ?_, Token.breaks_cons rfl _⟩
    rwa [String.toList_ofList]
  have hend := Token.reads_of_spells hspells reads_suffix_node
  have hslash : Token.Spells ['/'] (word ++ "?node".toList) .slash := rfl
  have hsentinel : Token.Spells ['@'] ('/' :: (word ++ "?node".toList)) .sentinel := ⟨rfl, nofun⟩
  rw [textOfWord, String.toList_ofList]
  exact Token.reads_of_spells hsentinel (Token.reads_of_spells hslash hend)

theorem compile_textOfWord {word letters : List Char} (hword : Token.SpellsWord word letters)
    (hbegins : Token.BeginsWord word) (htwo : 2 ≤ letters.length) (e : Expression) :
    compile (textOfWord word) = .ok e ↔ ∃ s, Selector.ofWord letters = .ok s ∧
      e = ⟨textOfWord word, false, ⟨[.single s], []⟩, .node, none⟩ := by
  have hreads := reads_textOfWord hword hbegins
  have hsel := Token.selector?_of_two_le htwo
  have hcompile {s : Selector Literal} (hs : Selector.ofWord letters = .ok s) :
      compile (textOfWord word) = .ok ⟨textOfWord word, false, ⟨[.single s], []⟩, .node, none⟩ := by
    rw [hs] at hsel
    have hmarks : [Token.slash, .word (String.ofList letters) false].filterMap Token.mark? =
        [.step s] := by
      rw [List.filterMap_cons_none rfl, List.filterMap_cons_some ((Token.of_selector hsel).2.2 s rfl)]
      rfl
    exact compile_of_reads hreads (Token.isBody_step hsel) isSuffix_node hmarks.symm
  constructor
  · intro he
    obtain ⟨body, suffix, hexp, -⟩ := compile_eq_ok_iff.1 he
    -- the word is a token of the body, and what it selects is no fault
    have htokens := Token.reads_unique (isExpression_iff_reads.1 hexp).1 hreads
    have hmem : Token.word (String.ofList letters) false ∈ body := by
      have hword : Token.word (String.ofList letters) false ∈
          sentinels e.referenced ++ body ++ [.suffix suffix] := by simp [htokens]
      cases hr : e.referenced <;> simpa [sentinels, hr] using hword
    obtain ⟨s, hs⟩ := hexp.isBody.classified _ hmem _ hsel
    exact ⟨s, hs, Except.ok.inj (he.symm.trans (hcompile hs))⟩
  · rintro ⟨s, hs, rfl⟩
    exact hcompile hs

/-- A letter after a backslash, within a word, is read as any other one. The word stands for what
its letters do, as it does without the backslash if that leaves the letters; and the letter is one
of a text in the selector unless it takes part in a symbol, a number, a range or a mark of a type. -/
theorem compile_escaped_letter {front back before after : List Char} {c : Char}
    (hfront : Token.SpellsWord front before) (hbegins : Token.BeginsWord front)
    (hback : Token.SpellsWord back after) :
    let letters := before ++ c :: after
    let text := textOfWord (front ++ '\\' :: c :: back)
    let bare := textOfWord (front ++ c :: back)
    (∀ e, compile text = .ok e ↔ ∃ s, Selector.ofWord letters = .ok s ∧
      e = ⟨text, false, ⟨[.single s], []⟩, .node, none⟩) ∧
    (Token.isDelimiter c = false → c ≠ '\\' → ∀ chain,
      compile text = .ok ⟨text, false, chain, .node, none⟩ ↔
        compile bare = .ok ⟨bare, false, chain, .node, none⟩) ∧
    ∀ s, Selector.ofWord letters = .ok s →
      (s.Carries letters before.length ↔ ¬ Selector.TakesPart letters before.length) := by
  intro letters text bare
  have hne : 0 < before.length := hbegins.length_pos hfront
  have htwo : 2 ≤ letters.length := by
    rw [List.length_append, List.length_cons]
    omega
  have htext := compile_textOfWord (hfront.append (.escaped hback)) (hbegins.append _) htwo
  refine ⟨htext, fun hc hescape chain => ?_, fun s hs => Selector.carries_iff hs hne ?_⟩
  · have hbare :=
      compile_textOfWord (hfront.append (.plain hc hescape hback)) (hbegins.append _) htwo
    rw [htext, hbare]
    simp [text, bare]
  · rw [List.length_append, List.length_cons]
    omega

/-- A colon after a backslash begins the name of a type. -/
theorem compile_escaped_letter_colon :
    let letters := "=:int:5".toList
    let text := textOfWord "=\\:int:5".toList
    compile text = .ok ⟨text, false, ⟨[.single (.equals (.typed "int" "5"))], []⟩, .node, none⟩ ∧
      compile (textOfWord letters) = .ok ⟨textOfWord letters, false,
        ⟨[.single (.equals (.typed "int" "5"))], []⟩, .node, none⟩ ∧
      ¬ (Selector.equals (.typed "int" "5")).Carries letters 1 := by
  intro letters text
  have hfront : Token.SpellsWord ['='] ['='] := .plain rfl (by decide) .nil
  have hback : Token.SpellsWord "int:5".toList "int:5".toList :=
    .plain rfl (by decide) (.plain rfl (by decide) (.plain rfl (by decide)
      (.plain rfl (by decide) (.plain rfl (by decide) .nil))))
  have hbegins : Token.BeginsWord ['='] := ⟨'=', rfl, by decide⟩
  obtain ⟨htext, hbare, hcarries⟩ := compile_escaped_letter (c := ':') hfront hbegins hback
  have hsel : Selector.ofWord letters = .ok (.equals (.typed "int" "5")) := by
    dsimp only [letters]
    rfl
  have hcompile := (htext _).2 ⟨_, hsel, rfl⟩
  refine ⟨hcompile, (hbare rfl (by decide) _).1 hcompile, ?_⟩
  exact fun h => (hcarries _ hsel).1 h (.typed rfl (by decide))

end Expression
end TreeQuery
