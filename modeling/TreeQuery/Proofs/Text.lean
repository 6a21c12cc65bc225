import Mathlib.Data.List.TakeWhile
import TreeQuery.Text.Blank
import TreeQuery.Text.Utf8

namespace TreeQuery.Text

theorem isBlank_of_isDigit {c : Char} (h : c.isDigit = true) : isBlank c = false := by
  rw [Char.isDigit, Bool.and_eq_true, decide_eq_true_eq, decide_eq_true_eq] at h
  have hc : 48 ≤ c.toNat ∧ c.toNat ≤ 57 :=
    ⟨UInt32.le_iff_toNat_le.1 h.1, UInt32.le_iff_toNat_le.1 h.2⟩
  simp only [isBlank, Bool.or_eq_false_iff, Bool.and_eq_false_iff, decide_eq_false_iff_not,
    beq_eq_false_iff_ne]
  omega

theorem trim_of_not_blank {cs : List Char} (h : ∀ c ∈ cs, isBlank c = false) :
    trim cs = cs := by
  have hdrop {cs : List Char} (h : ∀ c ∈ cs, isBlank c = false) : cs.dropWhile isBlank = cs := by
    cases cs with
    | nil => rfl
    | cons c cs => rw [List.dropWhile_cons, h c List.mem_cons_self, if_neg Bool.false_ne_true]
  rw [trim, trimStart, hdrop h, trimEnd, hdrop, List.reverse_reverse]
  exact fun c hc => h c (List.mem_reverse.1 hc)

theorem trimStart_append {blanks cs : List Char} (hblanks : ∀ c ∈ blanks, isBlank c = true)
    (hcs : ∀ c ∈ cs.head?, isBlank c = false) : trimStart (blanks ++ cs) = cs := by
  rw [trimStart, List.dropWhile_append_of_pos hblanks]
  cases cs with
  | nil => rfl
  | cons c cs =>
    have hc : isBlank c = false := hcs c rfl
    exact List.dropWhile_cons_of_neg (Bool.eq_false_iff.1 hc)

theorem mem_trimStart {c : Char} (hc : isBlank c = false) {cs : List Char} :
    c ∈ trimStart cs ↔ c ∈ cs := by
  have hsplit : cs = cs.takeWhile isBlank ++ trimStart cs := List.takeWhile_append_dropWhile.symm
  have hfront : c ∉ cs.takeWhile isBlank := by
    intro hmem
    exact absurd (List.mem_takeWhile_imp hmem) (Bool.eq_false_iff.1 hc)
  constructor
  · intro h
    exact (List.dropWhile_suffix isBlank).mem h
  · intro h
    rw [hsplit] at h
    exact (List.mem_append.1 h).resolve_left hfront

theorem mem_trim {c : Char} (hc : isBlank c = false) {cs : List Char} :
    c ∈ trim cs ↔ c ∈ cs := by
  have hend (ds : List Char) : c ∈ trimEnd ds ↔ c ∈ ds := by
    rw [trimEnd, List.mem_reverse]
    exact (mem_trimStart hc).trans List.mem_reverse
  rw [trim, hend, mem_trimStart hc]

/-- Blanks at the end of a text are left out with those that stand there already. -/
theorem trim_append_blanks {blanks : List Char} (h : ∀ c ∈ blanks, isBlank c = true)
    (cs : List Char) : trim (cs ++ blanks) = trim cs := by
  have hstart : trimStart (cs ++ blanks) = trimStart cs ∨
      trimStart (cs ++ blanks) = trimStart cs ++ blanks := by
    rw [trimStart, trimStart, List.dropWhile_append]
    cases hcs : cs.dropWhile isBlank with
    | nil => exact .inl (List.dropWhile_eq_nil_iff.2 h)
    | cons c rest => exact .inr rfl
  rcases hstart with hstart | hstart
  · rw [trim, hstart, trim]
  · have hreverse : ∀ c ∈ blanks.reverse, isBlank c = true :=
      fun c hc => h c (List.mem_reverse.1 hc)
    rw [trim, hstart, trimEnd, List.reverse_append, List.dropWhile_append_of_pos hreverse]
    rfl

theorem trim_trimEnd (cs : List Char) : trim (trimEnd cs) = trim cs := by
  have hblanks : ∀ c ∈ (cs.reverse.takeWhile isBlank).reverse, isBlank c = true :=
    fun c hc => List.mem_takeWhile_imp (List.mem_reverse.1 hc)
  have hsplit : trimEnd cs ++ (cs.reverse.takeWhile isBlank).reverse = cs := by
    rw [trimEnd, ← List.reverse_append, List.takeWhile_append_dropWhile, List.reverse_reverse]
  rw [← trim_append_blanks hblanks, hsplit]

/-- A character that is no blank keeps the blanks on its sides apart. -/
theorem trim_append_cons {c : Char} (hc : isBlank c = false) (cs rest : List Char) :
    trim (cs ++ c :: rest) = trimStart cs ++ c :: trimEnd rest := by
  have hstart : trimStart (cs ++ c :: rest) = trimStart cs ++ c :: rest := by
    rw [trimStart, trimStart, List.dropWhile_append, List.dropWhile_cons_of_neg (by simp [hc])]
    cases hcs : cs.dropWhile isBlank <;> rfl
  have hend : trimEnd (trimStart cs ++ c :: rest) = trimStart cs ++ c :: trimEnd rest := by
    rw [trimEnd, trimEnd, List.reverse_append, List.reverse_cons, List.append_assoc,
      List.dropWhile_append, List.singleton_append, List.dropWhile_cons_of_neg (by simp [hc])]
    cases hrest : rest.reverse.dropWhile isBlank <;> simp
  rw [trim, hstart, hend]

/-- The bytes are those of some characters, one after the other. -/
def IsUtf8 (bytes : List UInt8) : Prop :=
  ∃ cs : List Char, cs.flatMap String.utf8EncodeChar = bytes

theorem isUtf8_iff {bytes : List UInt8} :
    IsUtf8 bytes ↔ ByteArray.IsValidUTF8 ⟨bytes.toArray⟩ := by
  constructor
  · rintro ⟨cs, rfl⟩
    refine ⟨cs, ?_⟩
    rw [← List.data_toByteArray]
    rfl
  · rintro ⟨cs, hcs⟩
    have hdata := congrArg ByteArray.data hcs
    rw [List.utf8Encode, List.data_toByteArray] at hdata
    exact ⟨cs, (congrArg Array.toList hdata).symm⟩

theorem isSome_ofBytes?_iff {bytes : List UInt8} : (ofBytes? bytes).isSome ↔ IsUtf8 bytes := by
  rw [isUtf8_iff, ofBytes?, String.fromUTF8?]
  split <;> simp [*]

theorem ofBytes?_eq_some_iff {bytes : List UInt8} {text : String} :
    ofBytes? bytes = some text ↔ toBytes text = bytes := by
  rw [ofBytes?, String.fromUTF8?]
  constructor
  · intro h
    split at h
    · obtain rfl := Option.some.inj h
      rfl
    · exact absurd h nofun
  · rintro rfl
    rw [dif_pos (show ByteArray.IsValidUTF8 ⟨(toBytes text).toArray⟩ from text.isValidUTF8)]
    rfl

end TreeQuery.Text
