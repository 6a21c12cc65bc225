import TreeQuery.Proofs.Number.Digits
import TreeQuery.Proofs.Result
import TreeQuery.Template.Basic

namespace TreeQuery.Template

variable {args : List String} {cs front rest out : List Char} {c : Char}

/-- What a template is written in. -/
inductive Piece
  | letter (c : Char)
  | opening
  | closing
  | place (text : List Char)

def digits (place : List Char) : List Char := Integer.unsigned (Text.trim place)

def index (place : List Char) : Nat := Integer.ofDigits (digits place)

namespace Piece

def written : Piece → List Char
  | letter c => [c]
  | opening => ['\x7b', '\x7b']
  | closing => ['\x7d', '\x7d']
  | place text => '\x7b' :: text ++ ['\x7d']

/-- What a piece stands for. -/
def meaning (args : List String) : Piece → List Char
  | letter c => [c]
  | opening => ['\x7b']
  | closing => ['\x7d']
  | place text => (args[index text]?.getD "").toList

/-- Letters are no braces; a place does not begin as a doubled brace does, ends with the first
brace that closes it, and holds the number of an argument. -/
def Fits (args : List String) : Piece → Prop
  | letter c => c ≠ '\x7b' ∧ c ≠ '\x7d'
  | opening => True
  | closing => True
  | place text => text.head? ≠ some '\x7b' ∧ '\x7d' ∉ text ∧ digits text ≠ [] ∧
      (digits text).all Char.isDigit = true ∧ index text ≤ Integer.maxNatural ∧
      index text < args.length

end Piece

theorem argument_eq_ok_iff {place : List Char} : argument args place = .ok out ↔
    (digits place ≠ [] ∧ (digits place).all Char.isDigit = true ∧
      index place ≤ Integer.maxNatural ∧ index place < args.length) ∧
    out = (Piece.place place).meaning args := by
  have hread (i : Nat) : Integer.readNatural Integer.maxNatural (Text.trim place) = .ok i ↔
      digits place ≠ [] ∧ (digits place).all Char.isDigit = true ∧ index place = i ∧
        i ≤ Integer.maxNatural :=
    Integer.readNatural_eq_ok_iff_unsigned
  rw [argument, Piece.meaning]
  cases h : Integer.readNatural Integer.maxNatural (Text.trim place) with
  | error e =>
    refine ⟨nofun, fun ⟨⟨hne, hall, hmax, _⟩, _⟩ => ?_⟩
    exact absurd (h.symm.trans ((hread _).2 ⟨hne, hall, rfl, hmax⟩)) nofun
  | ok i =>
    obtain ⟨hne, hall, rfl, hmax⟩ := (hread i).1 h
    dsimp only
    by_cases hlt : index place < args.length
    · rw [List.getElem?_eq_getElem hlt, Option.getD_some]
      constructor
      · intro hout
        exact ⟨⟨hne, hall, hmax, hlt⟩, (Except.ok.inj hout).symm⟩
      · rintro ⟨-, rfl⟩
        rfl
    · rw [List.getElem?_eq_none (Nat.le_of_not_lt hlt)]
      exact ⟨nofun, fun h => absurd h.1.2.2.2 hlt⟩

/-- Outside of places a character and the one after it tell what is read. -/
theorem fillFrom_none_cons (args : List String) (c : Char) (rest : List Char) :
    fillFrom args none (c :: rest) =
      if c = '\x7b' then
        if rest.head? = some '\x7b' then (['\x7b'] ++ ·) <$> fillFrom args none rest.tail
        else fillFrom args (some []) rest
      else if c = '\x7d' then
        if rest.head? = some '\x7d' then (['\x7d'] ++ ·) <$> fillFrom args none rest.tail
        else .error .unmatchedBrace
      else ([c] ++ ·) <$> fillFrom args none rest := by
  by_cases hopening : c = '\x7b' ∧ rest.head? = some '\x7b'
  · obtain ⟨rfl, hrest⟩ := hopening
    obtain ⟨more, rfl⟩ := List.head?_eq_some_iff.1 hrest
    rfl
  by_cases hclosing : c = '\x7d' ∧ rest.head? = some '\x7d'
  · obtain ⟨rfl, hrest⟩ := hclosing
    obtain ⟨more, rfl⟩ := List.head?_eq_some_iff.1 hrest
    rfl
  -- what is left is read as a single character
  rw [fillFrom]
  · by_cases ho : c = '\x7b'
    · rw [if_pos ho, if_pos ho, if_neg fun h => hopening ⟨ho, h⟩]
    · by_cases hc : c = '\x7d'
      · rw [if_neg ho, if_neg ho, if_pos hc, if_pos hc, if_neg fun h => hclosing ⟨hc, h⟩]
      · rw [if_neg ho, if_neg ho, if_neg hc, if_neg hc]
        rfl
  · rintro more rfl rfl
    exact hopening ⟨rfl, rfl⟩
  · rintro more rfl rfl
    exact hclosing ⟨rfl, rfl⟩

/-- Inside of a place only the brace that closes it matters. -/
theorem fillFrom_some_cons (args : List String) (place : List Char) (c : Char)
    (rest : List Char) : fillFrom args (some place) (c :: rest) =
      if c = '\x7d' then
        argument args place >>= fun filling => (filling ++ ·) <$> fillFrom args none rest
      else fillFrom args (some (place ++ [c])) rest := rfl

theorem fillFrom_letter (hopen : c ≠ '\x7b') (hclose : c ≠ '\x7d') :
    fillFrom args none (c :: rest) = ([c] ++ ·) <$> fillFrom args none rest := by
  rw [fillFrom_none_cons, if_neg hopen, if_neg hclose]

theorem fillFrom_opening : fillFrom args none ('\x7b' :: '\x7b' :: rest) =
    (['\x7b'] ++ ·) <$> fillFrom args none rest := rfl

theorem fillFrom_closing : fillFrom args none ('\x7d' :: '\x7d' :: rest) =
    (['\x7d'] ++ ·) <$> fillFrom args none rest := rfl

theorem fillFrom_single_opening (h : rest.head? ≠ some '\x7b') :
    fillFrom args none ('\x7b' :: rest) = fillFrom args (some []) rest := by
  rw [fillFrom_none_cons, if_pos rfl, if_neg h]

theorem fillFrom_single_closing (h : rest.head? ≠ some '\x7d') :
    fillFrom args none ('\x7d' :: rest) = .error .unmatchedBrace := by
  rw [fillFrom_none_cons, if_neg (by decide), if_pos rfl, if_neg h]

theorem fillFrom_place (hfront : '\x7d' ∉ front) (before : List Char) :
    fillFrom args (some before) (front ++ '\x7d' :: rest) =
      argument args (before ++ front) >>= fun filling =>
        (filling ++ ·) <$> fillFrom args none rest := by
  induction front generalizing before with
  | nil => rw [List.nil_append, List.append_nil, fillFrom_some_cons, if_pos rfl]
  | cons c front ih =>
    obtain ⟨hc, hfront⟩ := not_or.1 (mt List.mem_cons.2 hfront)
    rw [List.cons_append, fillFrom_some_cons, if_neg (Ne.symm hc), ih hfront, List.append_assoc]
    rfl

theorem fillFrom_unterminated (hcs : '\x7d' ∉ cs) (before : List Char) :
    fillFrom args (some before) cs = .error .unterminated := by
  induction cs generalizing before with
  | nil => rfl
  | cons c cs ih =>
    obtain ⟨hc, hcs⟩ := not_or.1 (mt List.mem_cons.2 hcs)
    rw [fillFrom_some_cons, if_neg (Ne.symm hc), ih hcs]

/-- A piece is replaced by what it stands for, and the scan goes on behind it. -/
theorem fillFrom_written {p : Piece} (hp : p.Fits args) (rest : List Char) :
    fillFrom args none (p.written ++ rest) = (p.meaning args ++ ·) <$> fillFrom args none rest := by
  cases p with
  | letter c => exact fillFrom_letter hp.1 hp.2
  | opening => exact fillFrom_opening
  | closing => exact fillFrom_closing
  | place text =>
    obtain ⟨hhead, hclose, hindex⟩ := hp
    have hnext : (text ++ '\x7d' :: rest).head? ≠ some '\x7b' := by
      cases text with
      | nil => exact fun h => absurd (Option.some.inj h) (by decide)
      | cons c text => exact hhead
    rw [Piece.written, List.cons_append, List.cons_append, List.append_assoc,
      List.singleton_append, fillFrom_single_opening hnext, fillFrom_place hclose,
      List.nil_append, argument_eq_ok_iff.2 ⟨hindex, rfl⟩]
    rfl

theorem fillFrom_flatMap_written {pieces : List Piece} (hp : ∀ p ∈ pieces, p.Fits args)
    (rest : List Char) : fillFrom args none (pieces.flatMap Piece.written ++ rest) =
      (pieces.flatMap (Piece.meaning args) ++ ·) <$> fillFrom args none rest := by
  induction pieces with
  | nil =>
    show fillFrom args none rest = (fun out => out) <$> fillFrom args none rest
    cases fillFrom args none rest <;> rfl
  | cons p pieces ih =>
    obtain ⟨hp, hpieces⟩ := List.forall_mem_cons.1 hp
    rw [List.flatMap_cons, List.flatMap_cons, List.append_assoc, fillFrom_written hp, ih hpieces]
    cases fillFrom args none rest with
    | error e => rfl
    | ok out => exact congrArg Except.ok (List.append_assoc _ _ out).symm

theorem exists_first_piece (h : fillFrom args none (c :: cs) = .ok out) :
    ∃ (p : Piece) (rest : List Char), p.Fits args ∧ c :: cs = p.written ++ rest := by
  by_cases hopen : c = '\x7b'
  · subst hopen
    by_cases hdouble : cs.head? = some '\x7b'
    · obtain ⟨rest, rfl⟩ := List.head?_eq_some_iff.1 hdouble
      exact ⟨.opening, rest, trivial, rfl⟩
    · rw [fillFrom_single_opening hdouble] at h
      by_cases hend : '\x7d' ∈ cs
      · obtain ⟨text, rest, rfl, htext⟩ := List.eq_append_cons_of_mem hend
        have hhead : text.head? ≠ some '\x7b' := by
          cases text with
          | nil => exact nofun
          | cons d text => exact hdouble
        rw [fillFrom_place htext] at h
        obtain ⟨filling, hfilling, -⟩ := ok_of_bind h
        refine ⟨.place text, rest, ⟨hhead, htext, (argument_eq_ok_iff.1 hfilling).1⟩, ?_⟩
        rw [Piece.written, List.append_assoc]
        rfl
      · rw [fillFrom_unterminated hend] at h
        exact absurd h nofun
  · by_cases hclose : c = '\x7d'
    · subst hclose
      by_cases hdouble : cs.head? = some '\x7d'
      · obtain ⟨rest, rfl⟩ := List.head?_eq_some_iff.1 hdouble
        exact ⟨.closing, rest, trivial, rfl⟩
      · rw [fillFrom_single_closing hdouble] at h
        exact absurd h nofun
    · exact ⟨.letter c, cs, ⟨hopen, hclose⟩, rfl⟩

theorem Piece.length_written_pos (p : Piece) : 0 < p.written.length := by
  cases p <;> exact Nat.succ_pos _

theorem fillFrom_eq_ok_iff : fillFrom args none cs = .ok out ↔
    ∃ pieces : List Piece, (∀ p ∈ pieces, p.Fits args) ∧ cs = pieces.flatMap Piece.written ∧
      out = pieces.flatMap (Piece.meaning args) := by
  constructor
  · intro h
    -- on the length, since a piece takes up several characters
    induction hn : cs.length using Nat.strongRecOn generalizing cs out with
    | ind n ih =>
      cases cs with
      | nil => exact ⟨[], nofun, rfl, (Except.ok.inj h).symm⟩
      | cons c cs =>
        obtain ⟨p, rest, hp, hsplit⟩ := exists_first_piece h
        rw [hsplit, fillFrom_written hp] at h
        obtain ⟨more, hmore, rfl⟩ := ok_of_map h
        have hlength : rest.length < n := by
          have := p.length_written_pos
          rw [← hn, hsplit, List.length_append]
          omega
        obtain ⟨pieces, hpieces, rfl, rfl⟩ := ih _ hlength hmore rfl
        exact ⟨p :: pieces, List.forall_mem_cons.2 ⟨hp, hpieces⟩, hsplit, rfl⟩
  · rintro ⟨pieces, hp, rfl, rfl⟩
    have h := fillFrom_flatMap_written hp []
    rw [List.append_nil] at h
    rw [h]
    exact congrArg Except.ok (List.append_nil _)

def cut? : List Char → Option (Piece × List Char)
  | [] => none
  | '\x7b' :: '\x7b' :: rest => some (.opening, rest)
  | '\x7d' :: '\x7d' :: rest => some (.closing, rest)
  | c :: rest =>
    if c = '\x7b' then
      some (.place (rest.takeWhile (· != '\x7d')), (rest.dropWhile (· != '\x7d')).tail)
    else some (.letter c, rest)

theorem cut?_written {p : Piece} (hp : p.Fits args) (rest : List Char) :
    cut? (p.written ++ rest) = some (p, rest) := by
  cases p with
  | letter c =>
    show cut? (c :: rest) = _
    rw [cut?, if_neg hp.1]
    · exact fun _ h _ => hp.1 h
    · exact fun _ h _ => hp.2 h
  | opening => rfl
  | closing => rfl
  | place text =>
    obtain ⟨hhead, hclose, -⟩ := hp
    have hne : ∀ c ∈ text, (c != '\x7d') = true := fun c hc =>
      bne_iff_ne.2 fun h => hclose (h ▸ hc)
    rw [Piece.written, List.cons_append, List.cons_append, List.append_assoc,
      List.singleton_append, cut?, if_pos rfl]
    · rw [List.takeWhile_append_of_pos hne, List.dropWhile_append_of_pos hne,
        List.takeWhile_cons_of_neg (by decide), List.dropWhile_cons_of_neg (by decide),
        List.append_nil, List.tail_cons]
    · rintro more - hmore
      cases text with
      | nil => exact absurd (List.cons.inj hmore).1 (by decide)
      | cons c text => exact hhead (congrArg some (List.cons.inj hmore).1)
    · exact fun _ hc _ => absurd hc (by decide)

theorem flatMap_written_inj {ps qs : List Piece} (hps : ∀ p ∈ ps, p.Fits args)
    (hqs : ∀ q ∈ qs, q.Fits args) (h : ps.flatMap Piece.written = qs.flatMap Piece.written) :
    ps = qs := by
  induction ps generalizing qs with
  | nil =>
    cases qs with
    | nil => rfl
    | cons q qs =>
      have := q.length_written_pos
      have hlength := congrArg List.length h
      rw [List.flatMap_cons, List.length_append, List.flatMap_nil, List.length_nil] at hlength
      omega
  | cons p ps ih =>
    obtain ⟨hp, hps⟩ := List.forall_mem_cons.1 hps
    -- the first piece can be told from the text
    have hcut := cut?_written hp (ps.flatMap Piece.written)
    rw [← List.flatMap_cons, h] at hcut
    cases qs with
    | nil => exact absurd hcut nofun
    | cons q qs =>
      obtain ⟨hq, hqs⟩ := List.forall_mem_cons.1 hqs
      rw [List.flatMap_cons, cut?_written hq] at hcut
      have hpair := Option.some.inj hcut
      have hfirst : q = p := congrArg Prod.fst hpair
      have hrest : qs.flatMap Piece.written = ps.flatMap Piece.written := congrArg Prod.snd hpair
      rw [hfirst, ih hps hqs hrest.symm]

theorem fill_eq_ok_iff {template text : String} : fill args template = .ok text ↔
    ∃ pieces : List Piece, (∀ p ∈ pieces, p.Fits args) ∧
      template.toList = pieces.flatMap Piece.written ∧
      text.toList = pieces.flatMap (Piece.meaning args) := by
  rw [← fillFrom_eq_ok_iff, fill]
  cases fillFrom args none template.toList with
  | error e => exact ⟨nofun, nofun⟩
  | ok out =>
    constructor
    · intro h
      rw [← Except.ok.inj h, String.toList_ofList]
    · intro h
      rw [Except.ok.inj h]
      exact congrArg Except.ok String.ofList_toList

/-- Where a template is filled, what comes after it is filled as if it stood alone. -/
theorem fill_append {template text : String} (h : fill args template = .ok text) (more : String) :
    fill args (template ++ more) = (text ++ ·) <$> fill args more := by
  obtain ⟨pieces, hp, htemplate, htext⟩ := fill_eq_ok_iff.1 h
  rw [fill, fill, String.toList_append, htemplate, fillFrom_flatMap_written hp, ← htext]
  cases fillFrom args none more.toList with
  | error e => rfl
  | ok out =>
    refine congrArg Except.ok ?_
    rw [String.ofList_append, String.ofList_toList]

def Piece.ofChar (c : Char) : Piece :=
  if c = '\x7b' then opening else if c = '\x7d' then closing else letter c

def ofText (text : String) : String :=
  String.ofList (text.toList.flatMap fun c => if c = '\x7b' ∨ c = '\x7d' then [c, c] else [c])

theorem fits_ofChar (c : Char) : (Piece.ofChar c).Fits args := by
  unfold Piece.ofChar
  split
  · trivial
  · split
    · trivial
    · next hopen hclose => exact ⟨hopen, hclose⟩

theorem meaning_ofChar (c : Char) : (Piece.ofChar c).meaning args = [c] := by
  unfold Piece.ofChar
  split
  · next h => exact h ▸ rfl
  · split
    · next h => exact h ▸ rfl
    · rfl

theorem written_ofChar (c : Char) :
    (Piece.ofChar c).written = if c = '\x7b' ∨ c = '\x7d' then [c, c] else [c] := by
  unfold Piece.ofChar
  split
  · next h => rw [if_pos (.inl h), h, Piece.written]
  · next hopen =>
    split
    · next h => rw [if_pos (.inr h), h, Piece.written]
    · next hclose => rw [if_neg (not_or.2 ⟨hopen, hclose⟩), Piece.written]

theorem fill_ofText (args : List String) (text : String) : fill args (ofText text) = .ok text := by
  refine fill_eq_ok_iff.2 ⟨text.toList.map Piece.ofChar, ?_, ?_, ?_⟩
  · rintro p hp
    obtain ⟨c, -, rfl⟩ := List.mem_map.1 hp
    exact fits_ofChar c
  · rw [ofText, String.toList_ofList, List.flatMap_map]
    exact List.flatMap_congr fun c _ => (written_ofChar c).symm
  · rw [List.flatMap_map]
    simp only [meaning_ofChar, List.flatMap_singleton']

/-- A template is filled exactly if it is written in pieces that fit the arguments, and then in one
way only; its text is what the pieces stand for, arguments as they are. So a text with its braces
doubled is filled with itself, and a template behind one that is filled is filled, or fails, as if
it stood alone. -/
theorem fill_substitutes_pieces (args : List String) :
    (∀ template text, fill args template = .ok text ↔
      ∃ pieces : List Piece, (∀ p ∈ pieces, p.Fits args) ∧
        template.toList = pieces.flatMap Piece.written ∧
        text.toList = pieces.flatMap (Piece.meaning args)) ∧
    (∀ ps qs : List Piece, (∀ p ∈ ps, p.Fits args) → (∀ q ∈ qs, q.Fits args) →
      ps.flatMap Piece.written = qs.flatMap Piece.written → ps = qs) ∧
    (∀ text, fill args (ofText text) = .ok text) ∧
    ∀ template text, fill args template = .ok text →
      ∀ more, fill args (template ++ more) = (text ++ ·) <$> fill args more :=
  ⟨fun _ _ => fill_eq_ok_iff, fun _ _ => flatMap_written_inj, fill_ofText args,
    fun _ _ h => fill_append h⟩

/-- Three braces open a doubled brace and a place, in this order. -/
theorem fill_substitutes_pieces_three_braces :
    fill ["su"] "\x7b\x7b\x7b +0\x7d\x7d\x7d" = .ok "\x7bsu\x7d" ∧
    fill ["su"] ("\x7b\x7b\x7b +0\x7d\x7d\x7d" ++ "\x7b0") = .error .unterminated := by
  obtain ⟨hpieces, -, -, happend⟩ := fill_substitutes_pieces ["su"]
  have hplace : (Piece.place [' ', '+', '0']).Fits ["su"] := by
    refine ⟨?_, ?_, ?_, ?_, ?_, ?_⟩ <;> decide
  have hfits : ∀ p ∈ [Piece.opening, .place [' ', '+', '0'], .closing], p.Fits ["su"] := by
    refine List.forall_mem_cons.2 ⟨trivial, List.forall_mem_cons.2 ⟨hplace, ?_⟩⟩
    exact List.forall_mem_singleton.2 trivial
  have hfill : fill ["su"] "\x7b\x7b\x7b +0\x7d\x7d\x7d" = .ok "\x7bsu\x7d" :=
    (hpieces _ _).2 ⟨_, hfits, by decide, by decide⟩
  refine ⟨hfill, ?_⟩
  rw [happend _ _ hfill]
  rfl

end TreeQuery.Template
