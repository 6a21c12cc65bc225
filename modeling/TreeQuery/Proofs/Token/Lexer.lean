import Mathlib.Data.List.TakeWhile
import TreeQuery.Proofs.Token.Spelling

namespace TreeQuery.Token

/-- From the front of a text the tokens are read, and `left` is what comes after them. -/
def Reads (cs : List Char) : List Token → List Char → Prop
  | [], left => cs = left
  | t :: ts, left => ∃ blanks front rest, cs = blanks ++ (front ++ rest) ∧
      (∀ c ∈ blanks, isBlank c = true) ∧ Spells front rest t ∧ Reads rest ts left

theorem reads_nil (cs : List Char) : Reads cs [] cs := rfl

theorem reads_of_spells {front rest left : List Char} {t : Token} {ts : List Token}
    (ht : Spells front rest t) (h : Reads rest ts left) : Reads (front ++ rest) (t :: ts) left :=
  ⟨[], front, rest, rfl, nofun, ht, h⟩

/-- Blanks before a token are left out with those that stand there already. -/
theorem Reads.blank_append {blanks cs left : List Char} {ts : List Token}
    (h : Reads cs ts left) (hblanks : ∀ c ∈ blanks, isBlank c = true) (hts : ts ≠ []) :
    Reads (blanks ++ cs) ts left := by
  cases ts with
  | nil => exact absurd rfl hts
  | cons t ts =>
    obtain ⟨more, front, rest, rfl, hmore, ht, h⟩ := h
    refine ⟨blanks ++ more, front, rest, (List.append_assoc _ _ _).symm, ?_, ht, h⟩
    exact fun c hc => (List.mem_append.1 hc).elim (hblanks c) (hmore c)

theorem reads_append_iff {cs left : List Char} {ts ts' : List Token} :
    Reads cs (ts ++ ts') left ↔ ∃ mid, Reads cs ts mid ∧ Reads mid ts' left := by
  induction ts generalizing cs with
  | nil =>
    constructor
    · intro h
      exact ⟨cs, rfl, h⟩
    · rintro ⟨mid, rfl, h⟩
      exact h
  | cons t ts ih =>
    constructor
    · rintro ⟨blanks, front, rest, hcs, hblanks, ht, h⟩
      obtain ⟨mid, hmid, hleft⟩ := ih.1 h
      exact ⟨mid, ⟨blanks, front, rest, hcs, hblanks, ht, hmid⟩, hleft⟩
    · rintro ⟨mid, ⟨blanks, front, rest, hcs, hblanks, ht, hmid⟩, hleft⟩
      exact ⟨blanks, front, rest, hcs, hblanks, ht, ih.2 ⟨mid, hmid, hleft⟩⟩

theorem suffix_of_reads {cs left : List Char} {ts : List Token} (h : Reads cs ts left) :
    left <:+ cs := by
  induction ts generalizing cs with
  | nil => exact h ▸ List.suffix_rfl
  | cons t ts ih =>
    obtain ⟨blanks, front, rest, rfl, -, -, h⟩ := h
    have hrest : rest <:+ front ++ rest := List.suffix_append front rest
    exact (ih h).trans (hrest.trans (List.suffix_append blanks _))

/-- Tokens are read in the same way if what comes after them is replaced, as long as it ends a word
that stands before it. -/
theorem Reads.replace {cs left left' : List Char} {ts : List Token} (h : Reads (cs ++ left) ts left)
    (ts_inner : ∀ t ∈ ts, ∀ text, t ≠ .suffix text) (hleft' : Breaks left') :
    Reads (cs ++ left') ts left' := by
  induction ts generalizing cs with
  | nil =>
    have hcs : cs = [] := List.append_left_eq_self.1 h
    rw [hcs]
    exact rfl
  | cons t ts ih =>
    obtain ⟨ht, hts⟩ := List.forall_mem_cons.1 ts_inner
    obtain ⟨blanks, front, rest, hsplit, hblanks, hfront, h⟩ := h
    -- the text of the token lies before what is replaced
    obtain ⟨more, rfl⟩ := suffix_of_reads h
    have hcs : cs = blanks ++ (front ++ more) := by
      rw [← List.append_assoc, ← List.append_assoc] at hsplit
      rw [List.append_cancel_right hsplit, List.append_assoc]
    have hfront' : Spells front (more ++ left') t := by
      refine hfront.replace ht ?_ ?_
      · intro hbreaks
        cases more with
        | nil => exact hleft'
        | cons c more => exact breaks_cons (hbreaks c rfl) _
      · intro hquote
        cases more with
        | nil => exact head?_ne_quote hleft'
        | cons c more => exact hquote
    refine ⟨blanks, front, more ++ left', ?_, hblanks, hfront', ih h hts⟩
    rw [hcs, List.append_assoc, List.append_assoc]

theorem Reads.replace_back {front back back' blanks : List Char} {ts : List Token}
    (h : Reads (front ++ back) ts (blanks ++ back)) (hblanks : ∀ c ∈ blanks, isBlank c = true)
    (ts_inner : ∀ t ∈ ts, ∀ text, t ≠ .suffix text) (hback' : Breaks back') :
    Reads (front ++ back') ts (blanks ++ back') := by
  obtain ⟨start, hstart⟩ := suffix_of_reads h
  have hfront : front = start ++ blanks :=
    List.append_cancel_right (by rw [← hstart, List.append_assoc])
  rw [← hstart] at h
  rw [hfront, List.append_assoc]
  exact h.replace ts_inner (breaks_append hblanks hback')

theorem length_lt_of_spells (blanks : List Char) {front rest : List Char} {t : Token}
    (h : Spells front rest t) : rest.length < (blanks ++ (front ++ rest)).length := by
  obtain ⟨c, hc, -⟩ := head?_of_spells h
  have hfront : 0 < front.length := List.length_pos_of_mem (List.mem_of_mem_head? hc)
  rw [List.length_append, List.length_append]
  omega

theorem readAll_blank {cs : List Char} (h : ∀ c ∈ cs, isBlank c = true) (fuel : Nat)
    (p : Position) :
    readAll (fuel + 1) p cs = ([⟨.eof, p.after cs⟩], none) := by
  have hdrop : cs.dropWhile isBlank = [] := List.dropWhile_eq_nil_iff.2 h
  have htake : cs.takeWhile isBlank = cs := List.takeWhile_eq_self_iff.2 h
  rw [readAll, hdrop, htake]
  rfl

theorem readAll_of_spells {blanks front rest : List Char} {t : Token}
    (hblanks : ∀ c ∈ blanks, isBlank c = true) (h : Spells front rest t) (fuel : Nat)
    (p : Position) : readAll (fuel + 1) p (blanks ++ (front ++ rest)) =
      (⟨t, p.after blanks⟩ :: (readAll fuel (p.after (blanks ++ front)) rest).1,
        (readAll fuel (p.after (blanks ++ front)) rest).2) := by
  obtain ⟨c, hc, hblank⟩ := head?_of_spells h
  cases front with
  | nil => exact absurd hc (Option.not_mem_none c)
  | cons d front =>
    obtain rfl : d = c := Option.some.inj hc
    have hdrop : (blanks ++ (d :: front ++ rest)).dropWhile isBlank = d :: front ++ rest := by
      rw [List.dropWhile_append_of_pos hblanks]
      exact List.dropWhile_cons_of_neg (Bool.eq_false_iff.1 hblank)
    have htake : (blanks ++ (d :: front ++ rest)).takeWhile isBlank = blanks := by
      rw [List.takeWhile_append_of_pos hblanks, List.cons_append,
        List.takeWhile_cons_of_neg (Bool.eq_false_iff.1 hblank), List.append_nil]
    have hne : (d :: front ++ rest).isEmpty = false := rfl
    have hfront : (d :: front ++ rest).take ((d :: front ++ rest).length - rest.length) =
        d :: front := List.take_left' (by rw [List.length_append, Nat.add_sub_cancel])
    rw [readAll, hdrop, htake]
    simp only [read_of_spells _ h, hne, Bool.false_eq_true, if_false, hfront]
    rw [Position.after_append]

theorem readAll_cases (fuel : Nat) (p : Position) (cs : List Char) :
    (∀ c ∈ cs, isBlank c = true) ∨
    (∃ blanks front rest t, cs = blanks ++ (front ++ rest) ∧ (∀ c ∈ blanks, isBlank c = true) ∧
      Spells front rest t) ∨
    ∃ e, readAll (fuel + 1) p cs = ([], some e) := by
  by_cases hdrop : cs.dropWhile isBlank = []
  · exact .inl (List.dropWhile_eq_nil_iff.1 hdrop)
  · cases hread : read (p.after (cs.takeWhile isBlank)) (cs.dropWhile isBlank) with
    | error e =>
      refine .inr (.inr ⟨e, ?_⟩)
      rw [readAll, hread]
    | ok r =>
      obtain ⟨t, rest⟩ := r
      have hhead : ∀ c ∈ (cs.dropWhile isBlank).head?, isBlank c = false := by
        intro c hc
        have hnot := List.head?_dropWhile_not isBlank cs
        rw [Option.mem_def.1 hc] at hnot
        exact hnot
      obtain ⟨front, hsplit, hfront⟩ := spells_of_read hhead hdrop hread
      refine .inr (.inl ⟨cs.takeWhile isBlank, front, rest, t, ?_, ?_, hfront⟩)
      · rw [← hsplit, List.takeWhile_append_dropWhile]
      · intro c hc
        exact List.mem_takeWhile_imp hc

theorem readAll_after_suffix {fuel : Nat} {p : Position} {cs : List Char} (hfuel : cs.length < fuel)
    {before after : List Lexeme} {lexeme : Lexeme} {text : String}
    (h : (readAll fuel p cs).1 = before ++ lexeme :: after) (hs : lexeme.token = .suffix text) :
    after.map Lexeme.token = [.eof] ∧ (readAll fuel p cs).2 = none := by
  induction fuel generalizing p cs before with
  | zero => exact absurd hfuel (Nat.not_lt_zero _)
  | succ fuel ih =>
    rcases readAll_cases fuel p cs with
      hblank | ⟨blanks, front, rest, t, rfl, hblanks, ht⟩ | ⟨e, he⟩
    · rw [readAll_blank hblank] at h
      cases before with
      | nil => exact absurd ((List.cons.inj h).1 ▸ hs) nofun
      | cons x before => exact absurd (List.cons.inj h).2 (by simp)
    · have hread := readAll_of_spells hblanks ht fuel p
      have hlength := length_lt_of_spells blanks ht
      rw [hread] at h ⊢
      -- the suffix is the token at hand, or comes later
      cases before with
      | nil =>
        obtain ⟨hx, rfl⟩ := List.cons.inj h
        have htoken : t = .suffix text := (congrArg Lexeme.token hx).trans hs
        subst htoken
        obtain ⟨rfl, -⟩ := ht
        obtain ⟨k, rfl⟩ : ∃ k, fuel = k + 1 := ⟨fuel - 1, by omega⟩
        rw [readAll_blank (List.forall_mem_nil _)]
        exact ⟨rfl, rfl⟩
      | cons x before => exact ih (by omega) (List.cons.inj h).2
    · rw [he] at h
      exact absurd h (by simp)

theorem readAll_eq_iff {fuel : Nat} {p : Position} {cs : List Char} {ts : List Token}
    (hfuel : cs.length < fuel) :
    (readAll fuel p cs).2 = none ∧ (readAll fuel p cs).1.map Lexeme.token = ts ++ [.eof] ↔
      ∃ left, Reads cs ts left ∧ ∀ c ∈ left, isBlank c = true := by
  -- on the tokens; the text and its place in the whole change with each of them
  induction ts generalizing fuel p cs with
  | nil =>
    obtain ⟨fuel, rfl⟩ : ∃ k, fuel = k + 1 := ⟨fuel - 1, by omega⟩
    constructor
    · rintro ⟨hfault, htokens⟩
      refine ⟨cs, rfl, ?_⟩
      rcases readAll_cases fuel p cs with
        hblank | ⟨blanks, front, rest, t, rfl, hblanks, ht⟩ | ⟨e, he⟩
      · exact hblank
      · have hread := readAll_of_spells hblanks ht fuel p
        rw [hread] at htokens
        obtain rfl : t = .eof := (List.cons.inj htokens).1
        exact absurd ht id
      · rw [he] at hfault
        exact absurd hfault nofun
    · rintro ⟨left, rfl, hblank⟩
      rw [readAll_blank hblank]
      exact ⟨rfl, rfl⟩
  | cons t ts ih =>
    obtain ⟨fuel, rfl⟩ : ∃ k, fuel = k + 1 := ⟨fuel - 1, by omega⟩
    constructor
    · rintro ⟨hfault, htokens⟩
      rcases readAll_cases fuel p cs with
        hblank | ⟨blanks, front, rest, u, rfl, hblanks, hu⟩ | ⟨e, he⟩
      · rw [readAll_blank hblank] at htokens
        exact absurd (List.cons.inj htokens).2 (by simp)
      · have hread := readAll_of_spells hblanks hu fuel p
        have hlength := length_lt_of_spells blanks hu
        rw [hread] at hfault htokens
        obtain ⟨rfl, hrest⟩ := List.cons.inj htokens
        obtain ⟨left, hleft, hblank⟩ := (ih (by omega)).1 ⟨hfault, hrest⟩
        exact ⟨left, ⟨blanks, front, rest, rfl, hblanks, hu, hleft⟩, hblank⟩
      · rw [he] at hfault
        exact absurd hfault nofun
    · rintro ⟨left, ⟨blanks, front, rest, rfl, hblanks, ht, hleft⟩, hblank⟩
      have hread := readAll_of_spells hblanks ht fuel p
      have hlength := length_lt_of_spells blanks ht
      obtain ⟨hfault, htokens⟩ : (readAll fuel _ rest).2 = none ∧
          (readAll fuel _ rest).1.map Lexeme.token = ts ++ [.eof] :=
        (ih (by omega)).2 ⟨left, hleft, hblank⟩
      rw [hread]
      exact ⟨hfault, congrArg (t :: ·) htokens⟩

/-- The tokens of a text are those that are spelled one after the other up to blanks at its end. -/
theorem tokenize_eq_iff {text : String} {ts : List Token} :
    (tokenize text).2 = none ∧ (tokenize text).1.map Lexeme.token = ts ++ [.eof] ↔
      ∃ left, Reads text.toList ts left ∧ ∀ c ∈ left, isBlank c = true :=
  readAll_eq_iff (Nat.lt_succ_self _)

/-- A token stands where it is read: what precedes it in the text is spelled by the tokens before it,
and the place it is given counts these characters. -/
theorem place_of_readAll {fuel : Nat} {p : Position} {cs : List Char} {before after : List Lexeme}
    {lexeme : Lexeme} (h : (readAll fuel p cs).1 = before ++ lexeme :: after) :
    ∃ front back rest blanks, cs = front ++ back ∧ lexeme.start = p.after front ∧
      read lexeme.start back = .ok (lexeme.token, rest) ∧ (∀ c ∈ blanks, isBlank c = true) ∧
      Reads cs (before.map Lexeme.token) (blanks ++ back) := by
  -- each token before the one looked for moves the place on by its own characters
  induction fuel generalizing p cs before with
  | zero => exact absurd h.symm (List.append_ne_nil_of_right_ne_nil before nofun)
  | succ fuel ih =>
    rcases readAll_cases fuel p cs with
      hblank | ⟨blanks, front, rest, t, rfl, hblanks, ht⟩ | ⟨e, he⟩
    · rw [readAll_blank hblank] at h
      cases before with
      | nil =>
        obtain ⟨rfl, -⟩ := List.cons.inj h
        exact ⟨cs, [], [], cs, (List.append_nil cs).symm, rfl, rfl, hblank,
          (List.append_nil cs).symm⟩
      | cons x before => exact absurd (List.cons.inj h).2 (by simp)
    · rw [readAll_of_spells hblanks ht fuel p] at h
      cases before with
      | nil =>
        obtain ⟨rfl, -⟩ := List.cons.inj h
        exact ⟨blanks, front ++ rest, rest, blanks, rfl, rfl, read_of_spells _ ht, hblanks, rfl⟩
      | cons x before =>
        obtain ⟨rfl, hrest⟩ := List.cons.inj h
        obtain ⟨front', back, rest', more, rfl, hstart, hread, hmore, hreads⟩ := ih hrest
        refine ⟨blanks ++ front ++ front', back, rest', more, by simp, ?_, hread, hmore, ?_⟩
        · rw [hstart, Position.after_append _ (blanks ++ front)]
        · exact ⟨blanks, front, _, rfl, hblanks, ht, hreads⟩
    · rw [he] at h
      exact absurd h.symm (List.append_ne_nil_of_right_ne_nil before nofun)

theorem exists_eof_of_readAll {fuel : Nat} {p : Position} {cs : List Char}
    (hfuel : cs.length < fuel) (h : (readAll fuel p cs).2 = none) :
    ∃ lexeme ∈ (readAll fuel p cs).1, lexeme.token = .eof := by
  induction fuel generalizing p cs with
  | zero => exact absurd hfuel (Nat.not_lt_zero _)
  | succ fuel ih =>
    rcases readAll_cases fuel p cs with
      hblank | ⟨blanks, front, rest, t, rfl, hblanks, ht⟩ | ⟨e, he⟩
    · rw [readAll_blank hblank]
      exact ⟨_, List.mem_cons_self, rfl⟩
    · have hlength := length_lt_of_spells blanks ht
      rw [readAll_of_spells hblanks ht fuel p] at h ⊢
      obtain ⟨lexeme, hmem, htoken⟩ := ih (by omega) h
      exact ⟨lexeme, List.mem_cons_of_mem _ hmem, htoken⟩
    · rw [he] at h
      exact absurd h nofun

end TreeQuery.Token
