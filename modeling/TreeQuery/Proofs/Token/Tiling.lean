import Mathlib.Algebra.BigOperators.Group.List.Basic
import Mathlib.Data.List.DropRight
import TreeQuery.Proofs.Token.Lexer

namespace TreeQuery

/-- The place behind the characters at the front of a text, counted anew: line feeds tell the lines
apart, and columns begin behind the last of them. -/
def Position.behind (front : List Char) : Position :=
  ⟨front.length, front.count '\n' + 1, (front.rtakeWhile (· != '\n')).length + 1⟩

namespace Position

theorem next_behind (front : List Char) (c : Char) :
    (behind front).next c = behind (front ++ [c]) := by
  by_cases hc : c = '\n'
  · subst hc
    simp [next, behind, List.rtakeWhile_concat_neg]
  · simp [next, behind, hc, List.count_append, List.rtakeWhile_concat_pos]

theorem after_behind (front cs : List Char) : (behind front).after cs = behind (front ++ cs) := by
  induction cs generalizing front with
  | nil => rw [after_nil, List.append_nil]
  | cons c cs ih =>
    show ((behind front).next c).after cs = _
    rw [next_behind, ih, List.append_assoc]
    rfl

end Position

namespace Token

/-- What no token can be read from, with the text before it: the end comes inside of a literal, after
any characters or after a backslash in it, or right after a backslash of a bare word. -/
inductive Unfinished (front : List Char) : List Char → LexError → Prop
  | quoted {inner text : List Char} (h : SpellsQuoted inner text) :
      Unfinished front ('"' :: inner) (.unterminatedLiteral (.behind front))
  | quotedEscape {inner text : List Char} (h : SpellsQuoted inner text) :
      Unfinished front ('"' :: (inner ++ ['\\'])) (.unterminatedLiteral (.behind front))
  | verbatim (text : List Char) :
      Unfinished front ('@' :: '"' :: doubled text) (.unterminatedLiteral (.behind front))
  | escape {word letters : List Char} (h : SpellsWord word letters)
      (hhead : ∀ c ∈ word.head?, c ≠ '@' ∧ c ≠ '"') :
      Unfinished front (word ++ ['\\']) (.danglingEscape (.behind (front ++ word)))

theorem doubled_of_readVerbatim {cs : List Char} (h : readVerbatim cs = none) :
    ∃ text, cs = doubled text := by
  fun_induction readVerbatim cs with
  | case1 => exact ⟨[], rfl⟩
  | case2 cs ih =>
    obtain ⟨text, rfl⟩ := ih (Option.map_eq_none_iff.1 h)
    exact ⟨'"' :: text, rfl⟩
  | case3 => cases h
  | case4 c cs _ hquote ih =>
    obtain ⟨text, rfl⟩ := ih (Option.map_eq_none_iff.1 h)
    exact ⟨c :: text, (doubled_cons hquote text).symm⟩

theorem spellsQuoted_of_readQuoted {cs : List Char} (h : readQuoted cs = none) :
    ∃ inner text, SpellsQuoted inner text ∧ (cs = inner ∨ cs = inner ++ ['\\']) := by
  fun_induction readQuoted cs with
  | case1 => exact ⟨[], [], .nil, .inl rfl⟩
  | case2 => cases h
  | case3 => exact ⟨[], [], .nil, .inr rfl⟩
  | case4 c cs ih =>
    obtain ⟨inner, text, hinner, hcs⟩ := ih (Option.map_eq_none_iff.1 h)
    refine ⟨'\\' :: c :: inner, unescape c ++ text, .escaped hinner, ?_⟩
    exact hcs.imp (congrArg ('\\' :: c :: ·)) (congrArg ('\\' :: c :: ·))
  | case5 c cs hquote hlone hescape ih =>
    obtain ⟨inner, text, hinner, hcs⟩ := ih (Option.map_eq_none_iff.1 h)
    refine ⟨c :: inner, c :: text, .plain hquote (ne_backslash hlone hescape) hinner, ?_⟩
    exact hcs.imp (congrArg (c :: ·)) (congrArg (c :: ·))

theorem eq_error_of_letter {c : Char} {r : Except Nat (List Char × List Char)} {k : Nat}
    (h : (do let (letters, rest) ← r; return (c :: letters, rest)) = .error k) : r = .error k := by
  cases r with
  | error e => exact congrArg _ (Except.error.inj h)
  | ok p => exact absurd h nofun

theorem spellsWord_of_readWord {before k : Nat} {cs : List Char}
    (h : readWord before cs = .error k) :
    ∃ word letters, cs = word ++ ['\\'] ∧ SpellsWord word letters ∧ k = before + word.length := by
  fun_induction readWord before cs with
  | case1 => cases h
  | case2 before => exact ⟨[], [], rfl, .nil, (Except.error.inj h).symm⟩
  | case3 before c cs ih =>
    obtain ⟨word, letters, rfl, hword, rfl⟩ := ih (eq_error_of_letter h)
    refine ⟨'\\' :: c :: word, c :: letters, rfl, .escaped hword, ?_⟩
    rw [List.length_cons, List.length_cons]
    omega
  | case4 => cases h
  | case5 before c cs hlone hescape hc ih =>
    obtain ⟨word, letters, hcs, hword, rfl⟩ := ih (eq_error_of_letter h)
    refine ⟨c :: word, c :: letters, congrArg (c :: ·) hcs,
      .plain (Bool.eq_false_iff.2 hc) (ne_backslash hlone hescape) hword, ?_⟩
    rw [List.length_cons]
    omega

theorem literalAt_eq_error_iff {p : Position} {r : Option (List Char × List Char)} {e : LexError} :
    literalAt p r = .error e ↔ r = none ∧ e = .unterminatedLiteral p := by
  cases r <;> simp [literalAt, eq_comm]

theorem unfinished_of_read {front cs : List Char} {e : LexError}
    (h : read (.behind front) cs = .error e) : Unfinished front cs e := by
  unfold read at h
  split at h
  case h_6 tail =>
    obtain ⟨hread, rfl⟩ := literalAt_eq_error_iff.1 h
    obtain ⟨text, rfl⟩ := doubled_of_readVerbatim hread
    exact .verbatim text
  case h_8 tail =>
    obtain ⟨hread, rfl⟩ := literalAt_eq_error_iff.1 h
    obtain ⟨inner, text, hinner, rfl | rfl⟩ := spellsQuoted_of_readQuoted hread
    · exact .quoted hinner
    · exact .quotedEscape hinner
  case h_9 hverbatim hsentinel hquote =>
    cases hread : readWord 0 cs with
    | ok p => rw [hread] at h; exact absurd h nofun
    | error k =>
      obtain ⟨word, letters, rfl, hword, rfl⟩ := spellsWord_of_readWord hread
      rw [hread] at h
      obtain rfl := Except.error.inj h
      rw [Nat.zero_add, List.take_left, Position.after_behind]
      refine .escape hword fun c hc => ?_
      obtain ⟨word, rfl⟩ := List.head?_eq_some_iff.1 hc
      refine ⟨?_, ?_⟩
      · rintro rfl
        exact hsentinel _ rfl
      · rintro rfl
        exact hquote _ rfl
  all_goals exact absurd h nofun

theorem read_of_readAll_fault {fuel : Nat} {p : Position} {cs : List Char} {e : LexError}
    (h : readAll (fuel + 1) p cs = ([], some e)) :
    read (p.after (cs.takeWhile isBlank)) (cs.dropWhile isBlank) = .error e := by
  rw [readAll] at h
  dsimp only at h
  cases hread : read (p.after (cs.takeWhile isBlank)) (cs.dropWhile isBlank) with
  | error e' =>
    rw [hread] at h
    exact congrArg Except.error (Option.some.inj (congrArg Prod.snd h))
  | ok r =>
    obtain ⟨t, rest⟩ := r
    rw [hread] at h
    dsimp only at h
    split at h
    · cases h
    · cases h

/-- A token with the blanks before it and the characters that spell it. -/
structure Tile where
  blanks : List Char
  chars : List Char
  lexeme : Lexeme

def Tile.text (t : Tile) : List Char := t.blanks ++ t.chars

/-- The tiles lie one after the other from the front of `cs` on, which comes behind `front` in the
text; `left` is what comes after them. -/
structure Tiling (front cs : List Char) (tiles : List Tile) (left : List Char) : Prop where
  text_eq : cs = tiles.flatMap Tile.text ++ left
  blank : ∀ t ∈ tiles, ∀ c ∈ t.blanks, isBlank c = true
  nonempty : ∀ t ∈ tiles, t.chars ≠ []
  placed : ∀ before t after, tiles = before ++ t :: after →
    t.lexeme.start = .behind (front ++ before.flatMap Tile.text ++ t.blanks)
  spelled : ∀ before t after, tiles = before ++ t :: after →
    Spells t.chars (after.flatMap Tile.text ++ left) t.lexeme.token

namespace Tiling

variable {front cs left : List Char} {tiles : List Tile}

theorem nil (front cs : List Char) : Tiling front cs [] cs where
  text_eq := rfl
  blank _ ht := absurd ht List.not_mem_nil
  nonempty _ ht := absurd ht List.not_mem_nil
  placed before _ _ h := absurd h.symm (List.append_ne_nil_of_right_ne_nil before nofun)
  spelled before _ _ h := absurd h.symm (List.append_ne_nil_of_right_ne_nil before nofun)

theorem cons {blanks chars rest : List Char} {t : Token}
    (hblanks : ∀ c ∈ blanks, isBlank c = true) (ht : Spells chars rest t)
    (h : Tiling (front ++ (blanks ++ chars)) rest tiles left) :
    Tiling front (blanks ++ (chars ++ rest))
      (⟨blanks, chars, ⟨t, .behind (front ++ blanks)⟩⟩ :: tiles) left where
  text_eq := by
    rw [h.text_eq, List.flatMap_cons, Tile.text]
    simp only [List.append_assoc]
  blank := List.forall_mem_cons.2 ⟨hblanks, h.blank⟩
  nonempty := by
    refine List.forall_mem_cons.2 ⟨?_, h.nonempty⟩
    rintro rfl
    obtain ⟨c, hc, -⟩ := head?_of_spells ht
    exact absurd hc (Option.not_mem_none c)
  placed before t after hsplit := by
    cases before with
    | nil =>
      obtain ⟨rfl, -⟩ := List.cons.inj hsplit
      rw [List.flatMap_nil, List.append_nil]
    | cons x before =>
      obtain ⟨rfl, rfl⟩ := List.cons.inj hsplit
      rw [h.placed before t after rfl, List.flatMap_cons, Tile.text]
      simp only [List.append_assoc]
  spelled before t after hsplit := by
    cases before with
    | nil =>
      obtain ⟨rfl, rfl⟩ := List.cons.inj hsplit
      rw [← h.text_eq]
      exact ht
    | cons x before => exact h.spelled before t after (List.cons.inj hsplit).2

theorem length_le (h : Tiling front cs tiles left) : tiles.length ≤ cs.length := by
  have hone : ∀ k ∈ tiles.map fun t => t.text.length, 1 ≤ k := by
    refine List.forall_mem_map.2 fun t ht => ?_
    have hchars := List.length_pos_iff.2 (h.nonempty t ht)
    rw [Tile.text, List.length_append]
    omega
  have hsum : tiles.length ≤ (tiles.flatMap Tile.text).length := by
    rw [List.length_flatMap]
    simpa using List.length_le_sum_of_one_le _ hone
  rw [h.text_eq, List.length_append]
  omega

theorem eq_nil_of_suffix (h : Tiling front cs tiles left) {before after : List Tile} {t : Tile}
    {text : String} (hsplit : tiles = before ++ t :: after) (ht : t.lexeme.token = .suffix text) :
    after = [] ∧ left = [] := by
  have hspelled := h.spelled before t after hsplit
  rw [ht] at hspelled
  obtain ⟨hrest, -⟩ := hspelled
  obtain ⟨hafter, hleft⟩ := List.append_eq_nil_iff.1 hrest
  refine ⟨List.eq_nil_iff_forall_not_mem.2 fun x hx => ?_, hleft⟩
  have hmem : x ∈ tiles := hsplit ▸ List.mem_append_right before (List.mem_cons_of_mem t hx)
  have hchars := (List.append_eq_nil_iff.1 (List.flatMap_eq_nil_iff.1 hafter x hx)).2
  exact h.nonempty x hmem hchars

end Tiling

/-- What comes of the text behind all tiles: its end, or a fault. -/
inductive Ends (front left : List Char) : List Lexeme → Option LexError → Prop
  | eof (hblank : ∀ c ∈ left, isBlank c = true) :
      Ends front left [⟨.eof, .behind (front ++ left)⟩] none
  | fault {blanks rest : List Char} {e : LexError} (hleft : left = blanks ++ rest)
      (hblank : ∀ c ∈ blanks, isBlank c = true) (h : Unfinished (front ++ blanks) rest e) :
      Ends front left [] (some e)

theorem Ends.fault_eq_none {front : List Char} {last : List Lexeme} {fault : Option LexError}
    (h : Ends front [] last fault) : fault = none := by
  cases h with
  | eof => rfl
  | fault hleft _ h =>
    obtain ⟨-, rfl⟩ := List.append_eq_nil_iff.1 hleft.symm
    generalize hcs : ([] : List Char) = cs at h
    cases h with
    | escape => exact absurd hcs.symm (List.append_ne_nil_of_right_ne_nil _ nofun)
    | _ => exact absurd hcs nofun

theorem exists_tiling_of_readAll {fuel : Nat} {cs : List Char} (hfuel : cs.length < fuel)
    (front : List Char) : ∃ tiles left last, Tiling front cs tiles left ∧
      (readAll fuel (.behind front) cs).1 = tiles.map Tile.lexeme ++ last ∧
      Ends (front ++ tiles.flatMap Tile.text) left last (readAll fuel (.behind front) cs).2 := by
  -- the tiles lie behind `front`, which grows by each of them
  induction fuel generalizing cs front with
  | zero => exact absurd hfuel (Nat.not_lt_zero _)
  | succ fuel ih =>
    rcases readAll_cases fuel (.behind front) cs with
      hblank | ⟨blanks, chars, rest, t, rfl, hblanks, ht⟩ | ⟨e, he⟩
    · rw [readAll_blank hblank, Position.after_behind]
      refine ⟨[], cs, _, .nil front cs, rfl, ?_⟩
      rw [List.flatMap_nil, List.append_nil]
      exact .eof hblank
    · have hrest : rest.length < fuel := by
        have hlength := length_lt_of_spells blanks ht
        omega
      rw [readAll_of_spells hblanks ht, Position.after_behind, Position.after_behind]
      obtain ⟨tiles, left, last, htiling, htokens, hends⟩ :=
        ih hrest (front ++ (blanks ++ chars))
      refine ⟨_, left, last, .cons hblanks ht htiling, congrArg (List.cons _) htokens, ?_⟩
      rwa [List.flatMap_cons, ← List.append_assoc front]
    · have hread := read_of_readAll_fault he
      rw [Position.after_behind] at hread
      rw [he]
      refine ⟨[], cs, [], .nil front cs, rfl, ?_⟩
      rw [List.flatMap_nil, List.append_nil]
      exact .fault List.takeWhile_append_dropWhile.symm (fun c hc => List.mem_takeWhile_imp hc)
        (unfinished_of_read hread)

/-- Every text is read up to its end or to a fault, with no more tokens than it has characters. They
lie in the text one after the other, each one spelled by some characters at the place that it is given,
and nothing but blanks is between them; behind the last one come blanks up to the end, or after blanks
what the fault is about. A suffix is the last token, and no fault comes after it. -/
theorem tokens_tile_text (text : String) : ∃ tiles left last,
    Tiling [] text.toList tiles left ∧
    (tokenize text).1 = tiles.map Tile.lexeme ++ last ∧
    Ends (tiles.flatMap Tile.text) left last (tokenize text).2 ∧
    tiles.length ≤ text.length ∧
    ∀ before t after s, tiles = before ++ t :: after → t.lexeme.token = .suffix s →
      after = [] ∧ (tokenize text).2 = none := by
  obtain ⟨tiles, left, last, htiling, htokens, hends⟩ :=
    exists_tiling_of_readAll (Nat.lt_succ_self text.toList.length) []
  refine ⟨tiles, left, last, htiling, htokens, hends, ?_, fun before t after s hsplit hs => ?_⟩
  · rw [← String.length_toList]
    exact htiling.length_le
  · obtain ⟨hafter, rfl⟩ := htiling.eq_nil_of_suffix hsplit hs
    exact ⟨hafter, hends.fault_eq_none⟩

end Token
end TreeQuery
