import TreeQuery.Proofs.Expression.Compose
import TreeQuery.Proofs.Expression.Grammar

namespace TreeQuery

namespace Token

theorem mark_of_others {t : Token} (hin : t.isOuter = false) (hop : t.operator? = none)
    (hsel : t.selector? = none) : t = .slash ∨ t = .openParen ∨ t = .closeParen := by
  cases t with
  | slash => exact .inl rfl
  | openParen => exact .inr (.inl rfl)
  | closeParen => exact .inr (.inr rfl)
  | word text escaped =>
    cases escaped with
    | true => cases hsel
    | false =>
      have hnone : SetOp.ofText? text = none := hop
      simp [selector?, hnone] at hsel
  | literal text => cases hsel
  | _ => cases hin

theorem Readable.head {t : Token} {ts : List Token} (h : Readable (t :: ts))
    (hop : t.operator? = none) : t = .slash ∨ t = .openParen ∨ t = .closeParen := by
  have hin : t.isOuter = false := h.inner t List.mem_cons_self
  refine mark_of_others hin hop ?_
  cases hsel : t.selector? with
  | none => rfl
  | some r =>
    have hprefix : [] ++ [t] <+: t :: ts := List.prefix_append [t] ts
    exact absurd (h.preceded [] t hprefix (by rw [hsel]; rfl)) nofun

theorem breaks_of_spells {front rest : List Char} {t : Token} (h : Spells front rest t)
    (ht : t = .slash ∨ t = .openParen ∨ t = .closeParen) : Breaks (front ++ rest) := by
  rcases ht with rfl | rfl | rfl
  all_goals
    rw [Spells] at h
    subst h
    exact breaks_cons rfl rest

theorem reads_of_sentinel {cs left : List Char} {ts : List Token}
    (h : Reads ('@' :: cs) (.sentinel :: ts) left) : Reads cs ts left := by
  obtain ⟨blanks, front, rest, hsplit, hblanks, ⟨rfl, -⟩, h⟩ := h
  cases blanks with
  | nil =>
    rw [(List.cons.inj hsplit).2]
    exact h
  | cons b blanks =>
    have hb : isBlank b = true := hblanks b List.mem_cons_self
    rw [← (List.cons.inj hsplit).1] at hb
    exact absurd hb (by decide)

end Token

theorem Step.head_marksAll {α : Type} (steps : List (Step α)) (op : SetOp) :
    (Step.marksAll steps).head? ≠ some (.operator op) := by
  cases steps with
  | nil => exact nofun
  | cons s rest => cases s <;> exact nofun

namespace Expression

/-- A piece of a text stands for steps: between a sentinel and the suffix for nodes it makes an
expression that has these steps and no operator. -/
def IsFragment (text : String) (steps : List (Step Literal)) : Prop :=
  compile ("@" ++ text ++ "?node") = .ok ⟨"@" ++ text ++ "?node", false, ⟨steps, []⟩, .node, none⟩

/-- The tokens of a piece, which are read from it before any text that begins with a slash. -/
structure IsPiece (cs : List Char) (body : List Token) : Prop where
  isBody : Token.IsBody body
  reads : ∀ more, Token.Reads (cs ++ '/' :: more) (body ++ [.slash]) more
  breaks : ∀ more, Token.Breaks (cs ++ '/' :: more)

theorem eq_of_isSuffix_node {tail : List Char}
    (h : IsSuffix (String.ofList (Text.trim tail)) .node none) : '?' ∉ tail := by
  obtain ⟨front, -, hkind, htext⟩ := h
  have hquestion : isBlank '?' = false := rfl
  have htrim : Text.trim front = "node".toList := by
    rw [← String.toList_ofList (l := Text.trim front), hkind]
    rfl
  rw [String.toList_ofList] at htext
  intro hmem
  have hnode : '?' ∈ "node".toList := by
    rw [← htrim, ← htext, Text.mem_trim hquestion, Text.mem_trim hquestion]
    exact hmem
  exact absurd hnode (by decide)

/-- If tokens and a suffix for nodes are read, the tokens come from what stands before the last
question mark, and are read from it also where a slash follows. -/
theorem reads_slash_of_reads_node {cs : List Char} {ts : List Token} {suffix : String}
    (h : Token.Reads (cs ++ "?node".toList) (ts ++ [.suffix suffix]) [])
    (hsuffix : IsSuffix suffix .node none) (hts : ∀ t ∈ ts, ∀ text, t ≠ .suffix text)
    (more : List Char) : Token.Reads (cs ++ '/' :: more) (ts ++ [.slash]) more := by
  obtain ⟨mid, hmid, blanks, front, rest, rfl, hblanks, hspells, rfl⟩ := Token.reads_append_iff.1 h
  obtain ⟨-, tail, rfl, rfl⟩ := hspells
  have htail : '?' ∉ tail := eq_of_isSuffix_node hsuffix
  obtain ⟨before, hbefore⟩ := Token.suffix_of_reads hmid
  -- both sides of the equation are divided at the last question mark
  have hcut : Selector.cutAtLast? '?' (cs ++ '?' :: "node".toList) =
      some (before ++ blanks, tail) := by
    refine Selector.cutAtLast?_eq_some_iff.2 ⟨?_, htail⟩
    show cs ++ "?node".toList = _
    rw [← hbefore, List.append_nil, List.append_assoc]
  have hnode : Selector.cutAtLast? '?' (cs ++ '?' :: "node".toList) = some (cs, "node".toList) :=
    Selector.cutAtLast?_eq_some_iff.2 ⟨rfl, by decide⟩
  have hcs : before ++ blanks = cs := (Prod.mk.inj (Option.some.inj (hcut.symm.trans hnode))).1
  have hbreaks : Token.Breaks (blanks ++ '/' :: more) :=
    Token.breaks_append hblanks (Token.breaks_cons rfl more)
  rw [← hbefore] at hmid
  have hreads := hmid.replace hts hbreaks
  rw [← List.append_assoc, hcs] at hreads
  have hslash : Token.Spells ['/'] more .slash := rfl
  exact Token.reads_append_iff.2 ⟨_, hreads, blanks, ['/'], more, rfl, hblanks, hslash, rfl⟩

theorem breaks_of_reads {cs more : List Char} {body : List Token} {steps : List (Step Literal)}
    (h : Token.Reads (cs ++ '/' :: more) (body ++ [.slash]) more) (hbody : Token.IsBody body)
    (hmarks : Step.marksAll steps = body.filterMap Token.mark?) :
    Token.Breaks (cs ++ '/' :: more) := by
  have hhead : ∀ t ∈ (body ++ [Token.slash]).head?,
      t = .slash ∨ t = .openParen ∨ t = .closeParen := by
    cases body with
    | nil => exact fun t ht => .inl (Option.some.inj ht).symm
    | cons t body =>
      intro u hu
      obtain rfl : t = u := Option.some.inj hu
      refine hbody.toReadable.head ?_
      cases hop : t.operator? with
      | none => rfl
      | some op =>
        rw [List.filterMap_cons_some (Token.of_operator hop).2.2] at hmarks
        exact absurd (congrArg List.head? hmarks) (Step.head_marksAll steps op)
  cases hts : body ++ [Token.slash] with
  | nil => exact absurd hts (by simp)
  | cons t ts =>
    rw [hts] at h hhead
    obtain ⟨blanks, front, rest, hsplit, hblanks, hspells, -⟩ := h
    rw [hsplit]
    exact Token.breaks_append hblanks (Token.breaks_of_spells hspells (hhead t rfl))

theorem exists_isPiece {text : String} {steps : List (Step Literal)} (h : IsFragment text steps) :
    ∃ body, IsPiece text.toList body ∧ Step.marksAll steps = body.filterMap Token.mark? := by
  obtain ⟨body, suffix, hexp, -, hsuffix, hmarks⟩ := compile_eq_ok_iff.1 h
  obtain ⟨hreads, hbody, -⟩ := isExpression_iff_reads.1 hexp
  have hmarks : Step.marksAll steps = body.filterMap Token.mark? :=
    (List.append_nil _).symm.trans hmarks
  have hinner : ∀ t ∈ body, ∀ s, t ≠ .suffix s := by
    rintro t ht s rfl
    exact absurd (hbody.inner _ ht) nofun
  have hpiece : Token.Reads (text.toList ++ "?node".toList) (body ++ [.suffix suffix]) [] := by
    rw [String.toList_append, String.toList_append, List.append_assoc] at hreads
    exact Token.reads_of_sentinel hreads
  have hslash := reads_slash_of_reads_node hpiece hsuffix hinner
  exact ⟨body, ⟨hbody, hslash, fun more => breaks_of_reads (hslash more) hbody hmarks⟩, hmarks⟩

/-- Two pieces that an operator combines, in a group. -/
def combined (op : SetOp) (left right : String) : String :=
  "@/(" ++ left ++ "/" ++ String.singleton op.symbol ++ right ++ "/)?node"

theorem toList_combined (op : SetOp) (left right : String) : (combined op left right).toList =
    ['@'] ++ (['/'] ++ (['('] ++ (left.toList ++ '/' :: ([op.symbol] ++
      (right.toList ++ '/' :: ([')'] ++ "?node".toList)))))) := by
  simp [combined]

theorem spells_operator (op : SetOp) {rest : List Char} (h : Token.Breaks rest) :
    Token.Spells [op.symbol] rest (.word (String.singleton op.symbol) false) := by
  have hsymbol : Token.isDelimiter op.symbol = false ∧ op.symbol ≠ '@' ∧ op.symbol ≠ '"' ∧
      op.symbol ≠ '\\' := by
    cases op <;> decide
  obtain ⟨hdelimiter, hsentinel, hquote, hescape⟩ := hsymbol
  refine ⟨⟨op.symbol, rfl, hsentinel, hquote, beq_eq_false_iff_ne.2 hescape⟩, ?_, h⟩
  rw [String.toList_singleton]
  exact .plain hdelimiter hescape .nil

def combinedBody (op : SetOp) (body body' : List Token) : List Token :=
  [.slash] ++ (.openParen :: ((body ++ [.slash]) ++
    ([.word (String.singleton op.symbol) false] ++ (body' ++ [.slash]))) ++ [.closeParen])

theorem isBody_combinedBody {body body' : List Token} (h : Token.IsBody body)
    (h' : Token.IsBody body') (op : SetOp) : Token.IsBody (combinedBody op body body') := by
  have hoperator := Token.isBody_operator (Token.operator?_symbol op)
  have hleft := h.append Token.isBody_slash
  have hright := h'.append Token.isBody_slash
  exact Token.isBody_slash.append (hleft.append (hoperator.append hright)).group

theorem filterMap_combinedBody (op : SetOp) (body body' : List Token) :
    (combinedBody op body body').filterMap Token.mark? =
      .opens :: (body.filterMap Token.mark? ++ .operator op :: body'.filterMap Token.mark?) ++
        [.closes] := by
  have hoperator : (Token.word (String.singleton op.symbol) false).mark? = some (.operator op) :=
    (Token.of_operator (Token.operator?_symbol op)).2.2
  have hslash : Token.slash.mark? = none := rfl
  have hopen : Token.openParen.mark? = some .opens := rfl
  have hclose : Token.closeParen.mark? = some .closes := rfl
  simp [combinedBody, hoperator, hslash, hopen, hclose]

theorem reads_combined {left right : String} {body body' : List Token}
    (h : IsPiece left.toList body) (h' : IsPiece right.toList body') (op : SetOp) :
    Token.Reads (combined op left right).toList
      (.sentinel :: combinedBody op body body' ++ [.suffix "node"]) [] := by
  have hsuffix : Token.Spells "?node".toList [] (.suffix "node") := ⟨rfl, _, rfl, by decide⟩
  have hclose : Token.Spells [')'] "?node".toList .closeParen := rfl
  have hend := Token.reads_of_spells hclose (Token.reads_of_spells hsuffix (Token.reads_nil []))
  have hright := Token.reads_append_iff.2 ⟨_, h'.reads _, hend⟩
  have hmid := Token.reads_of_spells (spells_operator op (h'.breaks _)) hright
  have hleft := Token.reads_append_iff.2 ⟨_, h.reads _, hmid⟩
  have hopen (rest : List Char) : Token.Spells ['('] rest .openParen := rfl
  have hslash (rest : List Char) : Token.Spells ['/'] rest .slash := rfl
  have hsentinel (rest : List Char) : Token.Spells ['@'] ('/' :: rest) .sentinel := ⟨rfl, by simp⟩
  have hreads := Token.reads_of_spells (hsentinel _) <| Token.reads_of_spells (hslash _) <|
    Token.reads_of_spells (hopen _) hleft
  rw [toList_combined]
  simpa [combinedBody] using hreads

/-- The group of two pieces has the steps of the one, and those of the other as the right side of
the operator. -/
theorem compile_combined {left right : String} {steps steps' : List (Step Literal)}
    (h : IsFragment left steps) (h' : IsFragment right steps') (op : SetOp) :
    compile (combined op left right) = .ok ⟨combined op left right, false,
      ⟨[.group ⟨steps, [⟨op, steps'⟩]⟩], []⟩, .node, none⟩ := by
  obtain ⟨body, hpiece, hmarks⟩ := exists_isPiece h
  obtain ⟨body', hpiece', hmarks'⟩ := exists_isPiece h'
  have hbody := isBody_combinedBody hpiece.isBody hpiece'.isBody op
  have hkind : IsSuffix "node" .node none := ⟨"node".toList, by decide, rfl, rfl⟩
  refine compile_of_reads (reads_combined hpiece hpiece' op) hbody hkind ?_
  rw [filterMap_combinedBody, ← hmarks, ← hmarks']
  simp [Chain.marks, Step.marksAll, Step.marks, Operand.marksAll]

end Expression
end TreeQuery
