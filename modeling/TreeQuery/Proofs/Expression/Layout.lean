import TreeQuery.Proofs.Expression.Compose
import TreeQuery.Proofs.Expression.Grammar

namespace TreeQuery

namespace Token

theorem reads_slashes {cs left : List Char} {ts : List Token} (h : Reads cs ts left) (k : Nat) :
    Reads (List.replicate k '/' ++ cs) (List.replicate k slash ++ ts) left := by
  induction k with
  | zero => exact h
  | succ k ih =>
    have hslash : Spells ['/'] (List.replicate k '/' ++ cs) slash := rfl
    exact ⟨[], ['/'], _, rfl, nofun, hslash, ih⟩

/-- A text is divided where a token ends, before one begins, or among the blanks between them. -/
structure Divides (front back : List Char) (before after : List Token) : Prop where
  front_reads : ∃ blanks, (∀ c ∈ blanks, isBlank c = true) ∧
    Reads (front ++ back) before (blanks ++ back)
  back_reads : Reads back after []

variable {front back : List Char} {before after : List Token}

theorem Divides.reads (h : Divides front back before after) (hafter : after ≠ []) :
    Reads (front ++ back) (before ++ after) [] := by
  obtain ⟨blanks, hblanks, hbefore⟩ := h.front_reads
  exact reads_append_iff.2 ⟨_, hbefore, h.back_reads.blank_append hblanks hafter⟩

/-- What is put where a text is divided is read between the tokens there, if no word goes on with
it. -/
theorem Divides.reads_insert {more : List Char} {ts : List Token}
    (h : Divides front back before after) (hbefore : ∀ t ∈ before, ∀ text, t ≠ .suffix text)
    (hmore : Breaks (more ++ back)) (hts : Reads (more ++ back) ts []) (hne : ts ≠ []) :
    Reads (front ++ more ++ back) (before ++ ts) [] := by
  obtain ⟨blanks, hblanks, hreads⟩ := h.front_reads
  rw [List.append_assoc]
  exact reads_append_iff.2
    ⟨_, hreads.replace_back hblanks hbefore hmore, hts.blank_append hblanks hne⟩

theorem Divides.reads_blanks {blanks : List Char} (h : Divides front back before after)
    (hbefore : ∀ t ∈ before, ∀ text, t ≠ .suffix text) (hafter : after ≠ [])
    (hblanks : ∀ c ∈ blanks, isBlank c = true) :
    Reads (front ++ blanks ++ back) (before ++ after) [] := by
  cases blanks with
  | nil =>
    rw [List.append_nil]
    exact h.reads hafter
  | cons b blanks =>
    have hb : isBlank b = true := hblanks b List.mem_cons_self
    have hbreaks : Breaks (b :: blanks ++ back) :=
      breaks_cons (by rw [isDelimiter, hb, Bool.or_true]) _
    exact h.reads_insert hbefore hbreaks (h.back_reads.blank_append hblanks hafter) hafter

theorem Divides.reads_slashes (h : Divides front back before after)
    (hbefore : ∀ t ∈ before, ∀ text, t ≠ .suffix text) (hafter : after ≠ []) (k : Nat) :
    Reads (front ++ List.replicate k '/' ++ back)
      (before ++ (List.replicate k slash ++ after)) [] := by
  have hts := Token.reads_slashes h.back_reads k
  cases k with
  | zero =>
    rw [List.replicate_zero, List.append_nil]
    exact h.reads hafter
  | succ k => exact h.reads_insert hbefore (breaks_cons rfl _) hts nofun

/-- Whatever follows a suffix belongs to it. -/
theorem reads_suffix_append {cs : List Char} {ts : List Token} {text : String}
    (h : Reads cs (ts ++ [.suffix text]) []) (hts : ∀ t ∈ ts, ∀ s, t ≠ .suffix s) :
    ∃ tail, text = String.ofList (Text.trim tail) ∧ ∀ more,
      Reads (cs ++ more) (ts ++ [.suffix (String.ofList (Text.trim (tail ++ more)))]) [] := by
  obtain ⟨mid, hmid, gap, front, rest, rfl, hgap, hspells, rfl⟩ := reads_append_iff.1 h
  obtain ⟨-, tail, rfl, rfl⟩ := hspells
  obtain ⟨start, rfl⟩ := suffix_of_reads hmid
  refine ⟨tail, rfl, fun more => ?_⟩
  have hend : Spells ('?' :: (tail ++ more)) []
      (.suffix (String.ofList (Text.trim (tail ++ more)))) := ⟨rfl, _, rfl, rfl⟩
  have hbreaks : Breaks (gap ++ ('?' :: (tail ++ more) ++ [])) :=
    breaks_append hgap (breaks_cons rfl _)
  have hlast : Reads (gap ++ ('?' :: (tail ++ more) ++ []))
      [.suffix (String.ofList (Text.trim (tail ++ more)))] [] := ⟨gap, _, [], rfl, hgap, hend, rfl⟩
  have hreads := reads_append_iff.2 ⟨_, hmid.replace hts hbreaks, hlast⟩
  simpa using hreads

theorem reads_suffix_blanks {cs blanks : List Char} {ts : List Token} {text : String}
    (h : Reads cs (ts ++ [.suffix text]) []) (hts : ∀ t ∈ ts, ∀ s, t ≠ .suffix s)
    (hblanks : ∀ c ∈ blanks, isBlank c = true) :
    Reads (cs ++ blanks) (ts ++ [.suffix text]) [] := by
  obtain ⟨tail, rfl, hmore⟩ := reads_suffix_append h hts
  rw [← Text.trim_append_blanks hblanks tail]
  exact hmore blanks

theorem reads_unique {cs : List Char} {ts ts' : List Token} (h : Reads cs ts [])
    (h' : Reads cs ts' []) : ts = ts' := by
  have htokens {us : List Token} (hus : Reads cs us []) :
      (tokenize (String.ofList cs)).1.map Lexeme.token = us ++ [.eof] :=
    (tokenize_eq_iff.2 ⟨[], String.toList_ofList.symm ▸ hus, nofun⟩).2
  exact List.append_cancel_right ((htokens h).symm.trans (htokens h'))

theorem Divides.exists_of_reads {ts : List Token} {last : Token}
    (h : Divides front back before after) (hafter : after ≠ [])
    (hreads : Reads (front ++ back) (ts ++ [last]) []) :
    ∃ rest, after = rest ++ [last] ∧ before ++ rest = ts := by
  obtain ⟨rest, last', rfl⟩ := List.eq_nil_or_concat after |>.resolve_left hafter
  rw [List.concat_eq_append] at *
  have htokens := reads_unique (h.reads hafter) hreads
  rw [← List.append_assoc] at htokens
  obtain ⟨hsplit, hlast⟩ := List.append_inj' htokens rfl
  exact ⟨rest, by rw [hlast], hsplit⟩

theorem isBody_slashes (k : Nat) : IsBody (List.replicate k slash) := by
  induction k with
  | zero => exact .nil
  | succ k ih => exact isBody_slash.append ih

theorem count_insert_slashes {t : Token} (ht : slash ≠ t) (ts ts' : List Token) (k : Nat) :
    (ts ++ (List.replicate k slash ++ ts')).count t = (ts ++ ts').count t := by
  have hslashes : (List.replicate k slash).count t = 0 :=
    List.count_eq_zero.2 fun hmem => ht (List.eq_of_mem_replicate hmem).symm
  rw [List.count_append, List.count_append, List.count_append, hslashes, Nat.zero_add]

theorem getLast?_insert_slashes {ts ts' : List Token} (h : (ts ++ ts').getLast? = some slash)
    (k : Nat) : (ts ++ (List.replicate k slash ++ ts')).getLast? = some slash := by
  rw [List.getLast?_append] at h
  rw [List.getLast?_append, List.getLast?_append, List.getLast?_replicate]
  -- a last token of the second part stays the last one; else it is a new slash or that of the first
  cases hlast : ts'.getLast? with
  | some t => rwa [hlast] at h
  | none =>
    rw [hlast] at h
    by_cases hk : k = 0
    · rwa [if_pos hk]
    · rw [if_neg hk]
      rfl

theorem Readable.insert_slashes {ts ts' : List Token} (h : Readable (ts ++ ts')) (k : Nat) :
    Readable (ts ++ (List.replicate k slash ++ ts')) := by
  induction ts' using List.reverseRecOn with
  | nil =>
    rw [List.append_nil] at h ⊢
    exact h.append (isBody_slashes k).toReadable
  | append_singleton ts' t ih =>
    rw [← List.append_assoc, readable_concat] at h
    obtain ⟨h, ht⟩ := h
    have hopen : slash ≠ openParen := nofun
    have hclose : slash ≠ closeParen := nofun
    rw [← List.append_assoc, ← List.append_assoc, readable_concat, List.append_assoc]
    refine ⟨ih h, ht.mono ?_ fun hslash => ?_⟩
    · rw [count_insert_slashes hopen, count_insert_slashes hclose]
    · exact beq_iff_eq.2 (getLast?_insert_slashes (beq_iff_eq.1 hslash) k)

theorem IsBody.insert_slashes {ts ts' : List Token} (h : IsBody (ts ++ ts')) (k : Nat) :
    IsBody (ts ++ (List.replicate k slash ++ ts')) := by
  refine ⟨h.toReadable.insert_slashes k, ?_⟩
  have hopen : slash ≠ openParen := nofun
  have hclose : slash ≠ closeParen := nofun
  rw [count_insert_slashes hopen, count_insert_slashes hclose, h.balanced]

theorem filterMap_insert_slashes (ts ts' : List Token) (k : Nat) :
    (ts ++ (List.replicate k slash ++ ts')).filterMap mark? = (ts ++ ts').filterMap mark? := by
  have hslashes : (List.replicate k slash).filterMap mark? = [] := by
    refine List.filterMap_eq_nil_iff.2 fun t ht => ?_
    rw [List.eq_of_mem_replicate ht]
    rfl
  rw [List.filterMap_append, List.filterMap_append, List.filterMap_append, hslashes,
    List.nil_append]

end Token

namespace Expression

open Token (Divides Reads IsBody)

variable {front back : List Char} {before after body : List Token} {e : Expression}

theorem compile_eq_of_reads {text suffix : String}
    (hreads : Reads text.toList (sentinels e.referenced ++ body ++ [.suffix suffix]) [])
    (hbody : IsBody body) (hsuffix : IsSuffix suffix e.kind e.convert)
    (hmarks : e.chain.marks = body.filterMap Token.mark?) :
    compile text = .ok { e with source := text } :=
  compile_eq_ok_iff.2 ⟨body, suffix,
    isExpression_iff_reads.2 ⟨hreads, hbody, _, _, hsuffix⟩, rfl, hsuffix, hmarks⟩

theorem no_suffix_of_isBody (referenced : Bool) (hbody : IsBody body) :
    ∀ t ∈ sentinels referenced ++ body, ∀ text, t ≠ .suffix text := by
  rintro t ht text rfl
  rcases List.mem_append.1 ht with ht | ht
  · cases referenced <;> simp [sentinels] at ht
  · exact Bool.noConfusion (hbody.inner _ ht : true = false)

/-- An expression without the name of a type takes one after a point. -/
theorem compile_append_type {text t : String} {e : Expression} (he : compile text = .ok e)
    (hnone : e.convert = none) (ht : Text.trim t.toList ≠ []) :
    compile (text ++ "." ++ t) = .ok { e with
      source := text ++ "." ++ t, convert := some (String.ofList (Text.trim t.toList)) } := by
  obtain ⟨body, suffix, hexp, -, hsuffix, hmarks⟩ := compile_eq_ok_iff.1 he
  obtain ⟨hreads, hbody, -⟩ := isExpression_iff_reads.1 hexp
  obtain ⟨tail, rfl, hmore⟩ :=
    Token.reads_suffix_append hreads (no_suffix_of_isBody e.referenced hbody)
  have htext : (text ++ "." ++ t).toList = text.toList ++ '.' :: t.toList := by
    simp [String.toList_append]
  have hreads' := hmore ('.' :: t.toList)
  rw [← htext] at hreads'
  rw [hnone] at hsuffix
  let e' : Expression := { e with convert := some (String.ofList (Text.trim t.toList)) }
  exact compile_eq_of_reads (e := e') hreads' hbody (hsuffix.append_type ht) hmarks

/-- Where tokens of an expression meet, blanks can be added without changing what is read, also
before the first one and after the last one. Slashes can be added after the sentinels, up to the
suffix. -/
theorem compile_insert (hd : Divides front back before after)
    (he : compile (String.ofList (front ++ back)) = .ok e) :
    (∀ blanks : List Char, (∀ c ∈ blanks, isBlank c = true) →
      compile (String.ofList (front ++ blanks ++ back)) =
        .ok { e with source := String.ofList (front ++ blanks ++ back) }) ∧
    (sentinels e.referenced <+: before → after ≠ [] → ∀ k : Nat,
      compile (String.ofList (front ++ List.replicate k '/' ++ back)) =
        .ok { e with source := String.ofList (front ++ List.replicate k '/' ++ back) }) := by
  obtain ⟨body, suffix, hexp, -, hsuffix, hmarks⟩ := compile_eq_ok_iff.1 he
  obtain ⟨hreads, hbody, -⟩ := isExpression_iff_reads.1 hexp
  rw [String.toList_ofList] at hreads
  have hinner := no_suffix_of_isBody e.referenced hbody
  by_cases hne : after = []
  · subst hne
    obtain rfl : back = [] := hd.back_reads
    refine ⟨fun blanks hblanks => ?_, fun _ hne => absurd rfl hne⟩
    rw [List.append_nil] at hreads ⊢
    have hreads' := Token.reads_suffix_blanks hreads hinner hblanks
    rw [← String.toList_ofList (l := front ++ blanks)] at hreads'
    exact compile_eq_of_reads hreads' hbody hsuffix hmarks
  · obtain ⟨after, rfl, hsplit⟩ := hd.exists_of_reads hne hreads
    have hbefore : ∀ t ∈ before, ∀ text, t ≠ .suffix text :=
      fun t ht => hinner t (hsplit ▸ List.mem_append_left after ht)
    refine ⟨fun blanks hblanks => ?_, fun hsentinels _ k => ?_⟩
    · have hreads' := hd.reads_blanks hbefore hne hblanks
      rw [← List.append_assoc, hsplit, ← String.toList_ofList (l := _ ++ back)] at hreads'
      exact compile_eq_of_reads hreads' hbody hsuffix hmarks
    · obtain ⟨start, rfl⟩ := hsentinels
      rw [List.append_assoc] at hsplit
      obtain rfl := List.append_cancel_left hsplit
      have hmarks' := hmarks.trans (Token.filterMap_insert_slashes start after k).symm
      have htext : Reads (String.ofList (front ++ List.replicate k '/' ++ back)).toList
          (sentinels e.referenced ++ (start ++ (List.replicate k .slash ++ after)) ++
            [.suffix suffix]) [] := by
        rw [String.toList_ofList]
        simpa using hd.reads_slashes hbefore hne k
      exact compile_eq_of_reads htext (hbody.insert_slashes k) hsuffix hmarks'

/-- A step with its slash on another line, and with more than one. -/
theorem compile_insert_step :
    let front := "@/".toList
    let back := "a?value".toList
    let step : Chain Literal := ⟨[.single (.named "a")], []⟩
    Divides front back [.sentinel, .slash] [.word "a" false, .suffix "value"] ∧
      compile (String.ofList (front ++ back)) = .ok ⟨"@/a?value", false, step, .value, none⟩ ∧
      compile "@/\n  a?value" = .ok ⟨"@/\n  a?value", false, step, .value, none⟩ ∧
      compile "@///a?value" = .ok ⟨"@///a?value", false, step, .value, none⟩ := by
  intro front back step
  have hword : Token.Spells ['a'] "?value".toList (.word "a" false) :=
    ⟨⟨'a', rfl, by decide, by decide, rfl⟩, .plain rfl (by decide) .nil, Token.breaks_cons rfl _⟩
  have hsuffix : Token.Spells "?value".toList [] (.suffix "value") := ⟨rfl, _, rfl, rfl⟩
  have hback : Reads back [.word "a" false, .suffix "value"] [] :=
    ⟨[], ['a'], _, rfl, nofun, hword, Token.reads_of_spells hsuffix rfl⟩
  have hsentinel : Token.Spells ['@'] ('/' :: back) .sentinel := ⟨rfl, nofun⟩
  have hslash : Token.Spells ['/'] back .slash := rfl
  have hfront : Reads (['@'] ++ (['/'] ++ back)) [.sentinel, .slash] back :=
    Token.reads_of_spells hsentinel (Token.reads_of_spells hslash (Token.reads_nil back))
  have hd : Divides front back _ _ := ⟨⟨[], nofun, hfront⟩, hback⟩
  have he : compile (String.ofList (front ++ back)) =
      .ok ⟨"@/a?value", false, step, .value, none⟩ := by
    dsimp only [front, back, step]
    rfl
  have hblank : ∀ c ∈ ['\n', ' ', ' '], isBlank c = true := List.all_eq_true.1 rfl
  obtain ⟨hblanks, hslashes⟩ := compile_insert hd he
  exact ⟨hd, he, hblanks _ hblank, hslashes (List.prefix_append [_] [_]) nofun 2⟩

end Expression
end TreeQuery
