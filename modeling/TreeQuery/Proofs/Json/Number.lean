import TreeQuery.Json.Reader
import TreeQuery.Proofs.Json.Stored
import TreeQuery.Proofs.Number.Rounding

namespace TreeQuery

namespace Ratio

variable {a b : Ratio}

/-- A quotient that is no greater than the greatest double. -/
structure Bounded (a : Ratio) : Prop where
  den_pos : 0 < a.den
  le_greatest : a.value ≤ greatest

theorem Bounded.nearestMagnitude_lt (h : a.Bounded) :
    a.nearestMagnitude < Binary64.infiniteMagnitude :=
  Ratio.nearestMagnitude_lt h.den_pos h.le_greatest

theorem Bounded.isFinite_ofRatio (h : a.Bounded) (negative : Bool) :
    (Binary64.ofRatio negative a).isFinite = true :=
  Binary64.isFinite_ofRatio.2 h.nearestMagnitude_lt

theorem bounded_round (h : a.nearestMagnitude < Binary64.infiniteMagnitude) : a.round.Bounded where
  den_pos := Binary64.den_toRatio_pos _
  le_greatest := Binary64.value_toRatio_le (Binary64.isFinite_ofRatio.2 h)

theorem Bounded.round (h : a.Bounded) : a.round.Bounded := bounded_round h.nearestMagnitude_lt

theorem Bounded.div (h : a.Bounded) (hb : 1 ≤ b.value) : (a.div b).Bounded where
  den_pos := by
    refine Nat.mul_pos h.den_pos (Nat.pos_of_ne_zero fun hnum => ?_)
    rw [value, hnum, Nat.cast_zero, zero_div] at hb
    exact absurd hb (by norm_num)
  le_greatest := by
    rw [value_div]
    exact (div_le_self a.value_nonneg hb).trans h.le_greatest

theorem greatest_eq : greatest = ((2 ^ 53 - 1) * 2 ^ 971 : ℕ) := by
  have hpow (n : ℕ) : (2 : ℚ) ^ (n : ℤ) = (2 ^ n : ℕ) := by
    rw [zpow_natCast, Nat.cast_pow, Nat.cast_ofNat]
  rw [Nat.cast_mul, ← hpow 971, greatest]
  norm_num

/-- Three hundred and eight is the greatest power of ten below the greatest double. -/
theorem bounded_ofNat {n k : Nat} (h : n ≤ 10 ^ k) (hk : k ≤ 308) : (ofNat n).Bounded where
  den_pos := Nat.one_pos
  le_greatest := by
    have hlimit : 10 ^ 308 ≤ (2 ^ 53 - 1) * 2 ^ 971 := by decide +kernel
    have hpow {m : ℕ} (hm : k ≤ m) : 10 ^ k ≤ 10 ^ m := Nat.pow_le_pow_right (by decide) hm
    rw [value_ofNat, greatest_eq]
    exact Nat.cast_le.2 (h.trans ((hpow hk).trans hlimit))

theorem one_le_value_round (h : a.Bounded) (ha : 1 ≤ a.value) : 1 ≤ a.round.value := by
  have hone : (Binary64.mk 0x3FF0000000000000).toRatio.value = 1 := by
    rw [Binary64.value_toRatio]
    have hmantissa : (Binary64.mk 0x3FF0000000000000).mantissa = 2 ^ 52 := by decide
    have hexponent : (Binary64.mk 0x3FF0000000000000).exponent = -52 := by decide
    rw [hmantissa, hexponent]
    norm_num
  have hnear := ofRatio_nearest h.den_pos h.nearestMagnitude_lt false ⟨0x3FF0000000000000⟩
  rw [hone, abs_of_nonpos (sub_nonpos.2 ha)] at hnear
  have hbelow := (abs_le.1 hnear).1
  rw [round]
  linarith

end Ratio

namespace Json

theorem one_le_power {n : Nat} (h : n ≤ 308) : 1 ≤ (power n).value := by
  refine Ratio.one_le_value_round (Ratio.bounded_ofNat le_rfl h) ?_
  rw [Ratio.value_ofNat]
  exact_mod_cast Nat.one_le_pow n 10 (by decide)

theorem bounded_of_scale {fuel : Nat} {f a : Ratio} {e : Int} (hf : f.Bounded)
    (h : scale fuel f e = some a) : a.Bounded := by
  induction fuel generalizing f e with
  | zero => exact absurd h nofun
  | succ fuel ih =>
    have hdiv {n : Nat} (hn : n ≤ 308) : (f.div (power n)).round.Bounded :=
      (hf.div (one_le_power hn)).round
    rw [scale] at h
    dsimp only at h
    split_ifs at h with hn hup hfinite hzero
    · exact Option.some.inj h ▸ Ratio.bounded_round hfinite
    · exact Option.some.inj h ▸ hdiv hn
    · exact Option.some.inj h ▸ hf
    · exact ih (hdiv le_rfl) h

theorem Significand.value_whole_le {s : Significand} (hs : s.value ≤ Integer.maxNatural)
    (full : Bool) (digits : List Char) : (s.whole full digits).value ≤ Integer.maxNatural := by
  induction digits generalizing s full with
  | nil => exact hs
  | cons c rest ih =>
    rw [whole]
    split
    · exact ih (s := { s with exponent := s.exponent + 1 }) hs true
    · next h =>
      rw [Bool.or_eq_true, not_or, decide_eq_true_eq] at h
      exact ih (Nat.not_lt.1 h.2) false

theorem Significand.value_fraction_le {s : Significand} (hs : s.value ≤ Integer.maxNatural)
    (digits : List Char) : (s.fraction digits).value ≤ Integer.maxNatural := by
  induction digits generalizing s with
  | nil => exact hs
  | cons c rest ih =>
    rw [fraction]
    split
    · exact hs
    · next h => exact ih (Nat.not_lt.1 h)

theorem bounded_natural {n : Nat} (h : n ≤ Integer.maxNatural) : (Ratio.ofNat n).Bounded :=
  Ratio.bounded_ofNat (k := 20) (h.trans (by decide)) (by decide)

theorem stored_floatOf {negative : Bool} {s : Significand} {e : Int} {j : Json}
    (hs : s.value ≤ Integer.maxNatural) (h : floatOf? negative s e = some j) : Stored j := by
  obtain ⟨a, ha, rfl⟩ := Option.map_eq_some_iff.1 h
  exact .float _ ((bounded_of_scale (bounded_natural hs).round ha).isFinite_ofRatio negative)

theorem stored_integerOf (negative : Bool) {n : Nat} (hn : n ≤ Integer.maxNatural) :
    Stored (integerOf negative n) := by
  have hhigh : n < 2 ^ 64 := Nat.lt_succ_of_le hn
  rw [integerOf]
  split_ifs with hpositive hlarge
  · exact .integer n (by omega) (by omega)
  · exact .float _ ((bounded_natural hn).isFinite_ofRatio true)
  · rw [not_or, Integer.maxInteger] at hlarge
    exact .integer _ (by omega) (by omega)

theorem stored_withExponent {negative down : Bool} {s : Significand} {digits : List Char} {j : Json}
    (hs : s.value ≤ Integer.maxNatural) (h : withExponent? negative s down digits = some j) :
    Stored j := by
  rw [withExponent?] at h
  generalize (if down then _ else _ : Int) = e at h
  split_ifs at h
  · exact stored_floatOf hs h
  · obtain rfl := Option.some.inj h
    refine .float _ ?_
    cases negative <;> decide

theorem stored_readExponent {negative : Bool} {s : Significand} {plain : Option Json}
    {cs : List Char} {p : Json × List Char} (hs : s.value ≤ Integer.maxNatural)
    (hplain : ∀ j, plain = some j → Stored j) (h : readExponent negative s plain cs = some p) :
    Stored p.1 := by
  have hnone {rest : List Char} (h : plain.map (·, rest) = some p) : Stored p.1 := by
    obtain ⟨j, hj, rfl⟩ := Option.map_eq_some_iff.1 h
    exact hplain j hj
  rw [readExponent.eq_def] at h
  split at h
  · exact hnone h
  · split_ifs at h with he
    · -- with either sign, or without one
      split at h
      all_goals
        dsimp only at h
        split_ifs at h
        obtain ⟨j, hj, rfl⟩ := Option.map_eq_some_iff.1 h
        exact stored_withExponent hs hj
    · exact hnone h

/-- Every number that is read is an integer of 64 bits or a finite float. -/
theorem stored_readNumber {negative : Bool} {cs : List Char} {p : Json × List Char}
    (h : readNumber negative cs = some p) : Stored p.1 := by
  have hwhole : (Significand.whole {} false (cs.takeWhile Char.isDigit)).value ≤
      Integer.maxNatural := Significand.value_whole_le (Nat.zero_le _) false _
  rw [readNumber] at h
  split_ifs at h with hdigits
  split at h
  · next rest _ =>
    dsimp only at h
    split_ifs at h with hempty
    have hs := Significand.value_fraction_le hwhole (rest.takeWhile Char.isDigit)
    exact stored_readExponent hs (fun j hj => stored_floatOf hs hj) h
  · refine stored_readExponent hwhole (fun j hj => ?_) h
    split_ifs at hj with hexponent
    · exact Option.some.inj hj ▸ stored_integerOf negative hwhole
    · exact stored_floatOf hwhole hj

end Json
end TreeQuery
