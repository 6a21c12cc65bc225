import TreeQuery.Proofs.Token.Lexer

namespace TreeQuery.Token

/-- A text in which each letter counts as such in a word. -/
def escaped (cs : List Char) : List Char := cs.flatMap fun c => ['\\', c]

/-- A text for a token, unless it belongs to the end of an expression. -/
def written : Token → List Char
  | sentinel => ['@']
  | slash => ['/']
  | openParen => ['(']
  | closeParen => [')']
  | word text true => escaped text.toList
  | word text false => text.toList.head?.toList ++ escaped text.toList.tail
  | literal text => '@' :: '"' :: doubled text.toList ++ ['"']
  | suffix _ | eof => []

/-- A word has letters; if no escape is to begin it, its first one must not begin anything else. -/
def Writable : Token → Prop
  | word text true => text ≠ ""
  | word text false => ∃ c ∈ text.toList.head?,
      isDelimiter c = false ∧ c ≠ '\\' ∧ c ≠ '@' ∧ c ≠ '"'
  | suffix _ | eof => False
  | _ => True

def spaced (ts : List Token) : List Char := ts.flatMap fun t => ' ' :: t.written

theorem spellsWord_escaped (cs : List Char) : SpellsWord (escaped cs) cs := by
  induction cs with
  | nil => exact .nil
  | cons c cs ih => exact .escaped ih

theorem spells_written {t : Token} (ht : t.Writable) {rest : List Char} (hrest : Breaks rest) :
    Spells t.written rest t := by
  match t with
  | sentinel => exact ⟨rfl, head?_ne_quote hrest⟩
  | slash | openParen | closeParen => exact rfl
  | literal text => exact .inl ⟨rfl, head?_ne_quote hrest⟩
  | word text true =>
    refine ⟨⟨'\\', ?_, by decide, by decide, by decide⟩, spellsWord_escaped text.toList, hrest⟩
    rw [written]
    cases htext : text.toList with
    | nil => exact absurd (String.toList_eq_nil_iff.1 htext) ht
    | cons c cs => exact rfl
  | word text false =>
    obtain ⟨c, hhead, hc, hescape, hsentinel, hquote⟩ := ht
    obtain ⟨cs, htext⟩ : ∃ cs, text.toList = c :: cs := List.head?_eq_some_iff.1 hhead
    rw [Spells, written, htext]
    refine ⟨⟨c, rfl, hsentinel, hquote, beq_eq_false_iff_ne.2 hescape⟩, ?_, hrest⟩
    exact .plain hc hescape (spellsWord_escaped cs)

theorem isBlank_space : ∀ c ∈ [' '], isBlank c = true := List.forall_mem_singleton.2 rfl

theorem reads_spaced {ts : List Token} (hts : ∀ t ∈ ts, t.Writable) (rest : List Char) :
    Reads (spaced ts ++ ' ' :: rest) ts (' ' :: rest) := by
  induction ts with
  | nil => exact rfl
  | cons t ts ih =>
    obtain ⟨ht, hts⟩ := List.forall_mem_cons.1 hts
    -- also the text of the tokens that follow begins with a blank
    have hbreaks : Breaks (spaced ts ++ ' ' :: rest) := by
      cases ts with
      | nil => exact breaks_cons (by decide) rest
      | cons t ts => exact breaks_cons (by decide) _
    refine ⟨[' '], t.written, _, ?_, isBlank_space, spells_written ht hbreaks, ih hts⟩
    rw [spaced, List.flatMap_cons, List.append_assoc]
    rfl

end TreeQuery.Token
