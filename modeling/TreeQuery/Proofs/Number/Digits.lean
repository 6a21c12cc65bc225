import TreeQuery.Number.Integer

namespace TreeQuery.Integer

/-- The number that digits denote. -/
def ofDigits (cs : List Char) : Nat := Nat.ofDigitChars 10 cs 0

theorem le_ofDigitChars (cs : List Char) (n : Nat) : n ≤ Nat.ofDigitChars 10 cs n := by
  induction cs generalizing n with
  | nil => exact Nat.le_refl n
  | cons c cs ih =>
    have := ih (10 * n + (c.toNat - '0'.toNat))
    rw [Nat.ofDigitChars_cons]
    omega

/-- No digit is left out, and none is read past the limit. -/
theorem readDigits_eq_ok_iff {limit n m : Nat} {overflow : IntegerError} {cs : List Char}
    (hn : n ≤ limit) : readDigits limit overflow n cs = .ok m ↔
      cs.all Char.isDigit = true ∧ Nat.ofDigitChars 10 cs n = m ∧ m ≤ limit := by
  induction cs generalizing n with
  | nil =>
    rw [readDigits, Nat.ofDigitChars_nil]
    constructor
    · intro h
      obtain rfl := Except.ok.inj h
      exact ⟨rfl, rfl, hn⟩
    · rintro ⟨-, rfl, -⟩
      rfl
  | cons c cs ih =>
    rw [readDigits, List.all_cons, Bool.and_eq_true, Nat.ofDigitChars_cons]
    by_cases hc : c.isDigit = true
    · rw [if_pos hc]
      dsimp only
      split
      · next hle => rw [ih hle, and_iff_right hc]
      · next hlt =>
        -- further digits would only make it greater
        have := le_ofDigitChars cs (10 * n + (c.toNat - '0'.toNat))
        refine ⟨nofun, ?_⟩
        rintro ⟨-, rfl, h⟩
        omega
    · rw [if_neg hc]
      exact ⟨nofun, fun h => absurd h.1.1 hc⟩

/-- What a number is without the plus sign that may stand before it. -/
def unsigned : List Char → List Char
  | '+' :: digits => digits
  | digits => digits

theorem unsigned_eq_self {cs : List Char} (h : ∀ digits, cs ≠ '+' :: digits) : unsigned cs = cs := by
  unfold unsigned
  split
  · exact absurd rfl (h _)
  · rfl

theorem readNatural_eq_ok_iff_unsigned {limit m : Nat} {cs : List Char} :
    readNatural limit cs = .ok m ↔ unsigned cs ≠ [] ∧ (unsigned cs).all Char.isDigit = true ∧
      ofDigits (unsigned cs) = m ∧ m ≤ limit := by
  unfold readNatural
  split
  · exact ⟨nofun, fun h => absurd rfl h.1⟩
  · next digits =>
    rw [readSigned]
    cases digits with
    | nil => exact ⟨nofun, fun h => absurd rfl h.1⟩
    | cons c digits =>
      rw [if_neg (by simp), readDigits_eq_ok_iff (Nat.zero_le limit)]
      exact (and_iff_right (List.cons_ne_nil c digits)).symm
  · next hne hsign =>
    rw [unsigned_eq_self hsign, readDigits_eq_ok_iff (Nat.zero_le limit)]
    exact (and_iff_right hne).symm

theorem readNatural_eq_ok_iff {limit m : Nat} {cs : List Char} (hne : cs ≠ [])
    (hd : cs.all Char.isDigit = true) :
    readNatural limit cs = .ok m ↔ ofDigits cs = m ∧ m ≤ limit := by
  have hunsigned : unsigned cs = cs := by
    apply unsigned_eq_self
    rintro digits rfl
    exact absurd hd (by simp)
  rw [readNatural_eq_ok_iff_unsigned, hunsigned, and_iff_right hne, and_iff_right hd]

theorem ofDigits_toDigits (n : Nat) : ofDigits (Nat.toDigits 10 n) = n :=
  Nat.ofDigitChars_toDigits (by decide) (by decide)

theorem all_isDigit_toDigits (n : Nat) : (Nat.toDigits 10 n).all Char.isDigit = true :=
  List.all_eq_true.2 fun _ hc => Nat.isDigit_of_mem_toDigits (by decide) (by decide) hc

theorem readNatural_toDigits {limit n : Nat} (h : n ≤ limit) :
    readNatural limit (Nat.toDigits 10 n) = .ok n :=
  (readNatural_eq_ok_iff Nat.toDigits_ne_nil (all_isDigit_toDigits n)).2
    ⟨ofDigits_toDigits n, h⟩

theorem readSigned_toDigits {limit n : Nat} (h : n ≤ limit) (overflow : IntegerError) :
    readSigned limit overflow (Nat.toDigits 10 n) = .ok n := by
  have hne : ¬ (Nat.toDigits 10 n).isEmpty = true := by simp [Nat.toDigits_ne_nil]
  rw [readSigned, if_neg hne, readDigits_eq_ok_iff (Nat.zero_le limit)]
  exact ⟨all_isDigit_toDigits n, ofDigits_toDigits n, h⟩

theorem toList_toString (i : Int) : (toString i).toList =
    if 0 ≤ i then Nat.toDigits 10 i.toNat else '-' :: Nat.toDigits 10 (-i).toNat := by
  rw [Int.toString_eq_repr, Int.repr_eq_if]
  split
  · rw [Nat.toList_repr]
  · rw [String.toList_append, Nat.toList_repr]
    rfl

/-- A number of 64 bits is read from the text that it is shown by. -/
theorem readInt64_toString (n : Int64) : readInt64 (toString n.toInt).toList = .ok n := by
  have hlt := n.toInt_lt
  have hge := n.le_toInt
  rw [toList_toString]
  split
  · next h =>
    have hsign (digits : List Char) : Nat.toDigits 10 n.toInt.toNat ≠ '-' :: digits := by
      intro he
      have := all_isDigit_toDigits n.toInt.toNat
      rw [he] at this
      exact absurd this (by simp)
    unfold readInt64
    split
    · next digits he => exact absurd he (hsign digits)
    · have hlimit : n.toInt.toNat ≤ maxInteger := by
        rw [maxInteger]
        omega
      rw [readNatural_toDigits hlimit]
      show Except.ok (Int64.ofInt (n.toInt.toNat : Int)) = _
      rw [Int.toNat_of_nonneg h, Int64.ofInt_toInt]
  · next h =>
    have hlimit : (-n.toInt).toNat ≤ maxInteger + 1 := by
      rw [maxInteger]
      omega
    show (do return Int64.ofInt (-(← readSigned (maxInteger + 1) .tooSmall _ : Nat))) = _
    rw [readSigned_toDigits hlimit]
    show Except.ok (Int64.ofInt (-((-n.toInt).toNat : Int))) = _
    rw [Int.toNat_of_nonneg (by omega), Int.neg_neg, Int64.ofInt_toInt]

end TreeQuery.Integer
