import Colloquy.Proofs.Number.Place
import Colloquy.Proofs.Number.Share
import Colloquy.Proofs.Number.Written

/-!
# Exact integers

The integers that doubles hold: those with at most 53 significant binary digits, up to the greatest
double.  Just these keep their place when they are rounded, and so when their digits are read as
those of a decimal literal.

* `IsExact`, `isExact_of_natAbs_le`: such an integer; all small ones are;
* `Double.exists_ofMagnitude_eq`: a full significand is not changed by rounding;
* `Double.place?_ofRat_eq_iff`: just the exact integers are their own nearest doubles;
* `DecimalLiteral.place?_value`: the digits of an integer, read as a decimal literal, are the double
  nearest to it, also far beyond the range of doubles.
-/

namespace Colloquy

/-- An integer that a double can hold. -/
def IsExact (n : Int) : Prop := ∃ m e : Nat, m < 2 ^ 53 ∧ e ≤ 971 ∧ n.natAbs = m * 2 ^ e

theorem isExact_of_natAbs_le {n : Int} (h : n.natAbs ≤ 2 ^ 53) : IsExact n := by
  rcases Nat.lt_or_eq_of_le h with less | same
  · exact ⟨n.natAbs, 0, less, by decide, by simp⟩
  · exact ⟨2 ^ 52, 1, by decide, by decide, same⟩

/-! ### Rounding what is exact -/

/-- The binary logarithm is told by the powers of two around a number. -/
theorem log2Floor_eq {q : Rat} {k : Int} (hge : 2 ^ k ≤ q) (hlt : q < 2 ^ (k + 1)) :
    log2Floor q = k := by
  obtain ⟨hge', hlt'⟩ := log2Floor_spec ((two_zpow_pos k).trans_le hge)
  have hbelow : log2Floor q < k + 1 :=
    (zpow_lt_zpow_iff_right₀ one_lt_two).mp (hge'.trans_lt hlt)
  have habove : k < log2Floor q + 1 :=
    (zpow_lt_zpow_iff_right₀ one_lt_two).mp (hge.trans_lt hlt')
  omega

theorem roundEven_intCast (n : Int) : roundEven n = n :=
  le_antisymm (roundEven_le le_rfl) (le_roundEven le_rfl)

namespace Double

/-- A full significand is not changed by rounding. -/
theorem exists_ofMagnitude_eq {m : Nat} {e : Int} (full : octave ≤ m) (hm : m < 2 * octave)
    (he : -1074 ≤ e) (top : e ≤ 971) (negative : Bool) :
    ∃ rank, ofMagnitude negative (m * 2 ^ e) = .finite negative rank ∧
      magnitude rank.val = m * 2 ^ e := by
  have hlog : log2Floor (m * 2 ^ e) = 52 + e := by
    refine log2Floor_eq ?_ ?_
    · rw [two_zpow_add]
      refine mul_le_mul_of_nonneg_right ?_ (two_zpow_pos e).le
      exact_mod_cast full
    · have hexp : 52 + e + 1 = 53 + e := by omega
      rw [hexp, two_zpow_add]
      refine mul_lt_mul_of_pos_right ?_ (two_zpow_pos e)
      exact_mod_cast hm
  have hzero : (m : Rat) * 2 ^ e ≠ 0 := by
    have hpos : 0 < m := (by decide : 0 < octave).trans_le full
    exact mul_ne_zero (by exact_mod_cast hpos.ne') (two_zpow_pos e).ne'
  have hexponent : max (log2Floor (m * 2 ^ e) - 52) (-1074) = e := by omega
  have hround : roundEven (m * 2 ^ e / 2 ^ e) = m := by
    rw [mul_div_cancel_right₀ _ (two_zpow_pos e).ne']
    exact roundEven_intCast m
  have hrank : (e + 1074).toNat * octave + m < 0x7FF0000000000000 := by
    have hoctaves : (e + 1074).toNat ≤ 2045 := by omega
    unfold octave at *
    omega
  refine ⟨⟨_, hrank⟩, ?_, magnitude_rank he hm.le (.inr full)⟩
  simp only [ofMagnitude, if_neg hzero, hexponent, hround, Int.toNat_natCast, dif_pos hrank]

/-- What lies beyond the doubles is infinite when it is rounded. -/
theorem ofMagnitude_of_large {q : Rat} (h : 2 ^ (1024 : Int) ≤ q) (negative : Bool) :
    ofMagnitude negative q = .infinity negative := by
  have hpos : 0 < q := (two_zpow_pos 1024).trans_le h
  obtain ⟨hge, hlt⟩ := log2Floor_spec hpos
  have hlog : 1024 < log2Floor q + 1 := (zpow_lt_zpow_iff_right₀ one_lt_two).mp (h.trans_lt hlt)
  have hexponent : max (log2Floor q - 52) (-1074) = log2Floor q - 52 := by omega
  have hround : (octave : Int) ≤ roundEven (q / 2 ^ (log2Floor q - 52)) := by
    refine le_roundEven ((le_div_iff₀ (two_zpow_pos _)).mpr ?_)
    calc ((octave : Int) : Rat) * 2 ^ (log2Floor q - 52)
        = 2 ^ ((52 : Int) + (log2Floor q - 52)) := by rw [two_zpow_add]; norm_num [octave]
      _ = 2 ^ log2Floor q := by congr 1; omega
      _ ≤ q := hge
  have hrank : ¬ (log2Floor q - 52 + 1074).toNat * octave +
      (roundEven (q / 2 ^ (log2Floor q - 52))).toNat < 0x7FF0000000000000 := by
    have hoctaves : 2046 ≤ (log2Floor q - 52 + 1074).toNat := by omega
    unfold octave at *
    omega
  simp only [ofMagnitude, if_neg hpos.ne', hexponent, dif_neg hrank]

/-- An exact integer is the magnitude of a double, to which it rounds. -/
theorem exists_ofMagnitude_of_isExact {n : Nat} (h : IsExact n) (negative : Bool) :
    ∃ rank, ofMagnitude negative n = .finite negative rank ∧ magnitude rank.val = n := by
  obtain ⟨m, k, hm, hk, hn⟩ := h
  rw [Int.natAbs_natCast] at hn
  by_cases hzero : n = 0
  · subst hzero
    exact ⟨0, by simp [ofMagnitude], by simp [magnitude, significand, octave]⟩
  have hlog : n.log2 < 53 + k := by
    refine (Nat.log2_lt hzero).mpr ?_
    rw [hn, Nat.pow_add]
    exact Nat.mul_lt_mul_of_pos_right hm (Nat.two_pow_pos k)
  -- the significand is filled up with the power of two down to the first of 53 digits
  generalize he : (n.log2 : Int) - 52 = e
  have hfill : ((m * 2 ^ (k - e).toNat : Nat) : Rat) * 2 ^ e = n := by
    have hexp : ((k - e).toNat : Int) + e = k := by omega
    rw [hn]
    push_cast
    rw [mul_assoc, ← zpow_natCast, ← two_zpow_add, hexp, zpow_natCast]
  obtain ⟨hge, hlt⟩ := two_zpow_log2 hzero
  have hsplit : (n.log2 : Int) = 52 + e := by omega
  have hsplit' : (n.log2 : Int) + 1 = 53 + e := by omega
  rw [hsplit, two_zpow_add, ← hfill] at hge
  rw [hsplit', two_zpow_add, ← hfill] at hlt
  have full : octave ≤ m * 2 ^ (k - e).toNat := by
    have := le_of_mul_le_mul_right hge (two_zpow_pos e)
    exact_mod_cast this
  have below : m * 2 ^ (k - e).toNat < 2 * octave := by
    have := lt_of_mul_lt_mul_right hlt (two_zpow_pos e).le
    exact_mod_cast this
  obtain ⟨rank, hrank, hmagnitude⟩ :=
    exists_ofMagnitude_eq (e := e) full below (by omega) (by omega) negative
  rw [hfill] at hrank hmagnitude
  exact ⟨rank, hrank, hmagnitude⟩

/-- An integer that is a magnitude is exact. -/
theorem isExact_of_magnitude {n : Nat} {rank : Fin 0x7FF0000000000000}
    (h : magnitude rank.val = n) : IsExact n := by
  have hlt : significand rank < 2 ^ 53 := significand_lt rank
  have htop : exponent rank ≤ 971 := by
    have hdiv : rank.val / octave < 2047 := by
      refine (Nat.div_lt_iff_lt_mul (by decide)).mpr ?_
      exact rank.isLt
    unfold exponent
    omega
  rcases le_or_gt 0 (exponent rank) with whole | fractional
  · refine ⟨significand rank, (exponent rank).toNat, hlt, by omega, ?_⟩
    rw [Int.natAbs_natCast]
    have hpow : (2 : Rat) ^ exponent rank = 2 ^ (exponent rank).toNat := by
      rw [← zpow_natCast, Int.toNat_of_nonneg whole]
    rw [magnitude, hpow] at h
    exact_mod_cast h.symm
  · -- a fraction of a significand is smaller still
    have hle : (n : Rat) ≤ significand rank := by
      rw [← h, magnitude]
      exact mul_le_of_le_one_right (Nat.cast_nonneg _)
        (zpow_le_one_of_nonpos₀ one_le_two fractional.le)
    have hle' : n ≤ significand rank := by exact_mod_cast hle
    refine isExact_of_natAbs_le ?_
    rw [Int.natAbs_natCast]
    omega

/-- The value of a sign and a magnitude that are those of an integer. -/
theorem signed_eq_intCast {n : Int} {rank : Nat} (h : magnitude rank = n.natAbs) :
    signed (decide (n < 0)) rank = n := by
  rw [signed, h, Nat.cast_natAbs, Int.cast_abs]
  by_cases negative : n < 0
  · have negative' : (n : Rat) < 0 := by exact_mod_cast negative
    rw [if_pos (decide_eq_true negative), abs_of_neg negative', neg_neg]
  · have nonnegative : (0 : Rat) ≤ n := by exact_mod_cast not_lt.mp negative
    rw [decide_eq_false negative, if_neg Bool.false_ne_true, abs_of_nonneg nonnegative]

/-- Integers are rounded by their magnitudes. -/
theorem ofRat_intCast (n : Int) : ofRat n = ofMagnitude (decide (n < 0)) n.natAbs := by
  have habs : (n.natAbs : Rat) = |(n : Rat)| := by rw [Nat.cast_natAbs, Int.cast_abs]
  rw [ofRat, habs]
  split
  · next negative =>
    have negative' : n < 0 := by exact_mod_cast negative
    rw [abs_of_neg negative, decide_eq_true negative']
  · next nonnegative =>
    have nonnegative' : ¬ n < 0 := by exact_mod_cast nonnegative
    rw [abs_of_nonneg (not_lt.mp nonnegative), decide_eq_false nonnegative']

variable {n : Int}

/-- The value of a double is exact if it is an integer. -/
theorem isExact_of_place {x : Double} (h : x.place? = some (.ofRat n)) : IsExact n := by
  rcases x with ⟨negative, rank⟩ | (_ | _) | _
  · have hvalue : signed negative rank = n := Place.ofRat_injective (Option.some.inj h)
    have hmagnitude : magnitude rank.val = n.natAbs := by
      rw [Nat.cast_natAbs, Int.cast_abs, ← hvalue, signed]
      split
      · rw [abs_neg, abs_of_nonneg (magnitude_nonneg _)]
      · rw [abs_of_nonneg (magnitude_nonneg _)]
    have exact := isExact_of_magnitude hmagnitude
    rwa [IsExact, Int.natAbs_natCast] at exact
  · cases h
  · cases h
  · cases h

/-- Just the exact integers are their own nearest doubles. -/
theorem place?_ofRat_eq_iff : (ofRat n).place? = some (.ofRat n) ↔ IsExact n := by
  refine ⟨isExact_of_place, fun exact => ?_⟩
  have exact' : IsExact n.natAbs := by rwa [IsExact, Int.natAbs_natCast]
  obtain ⟨rank, hrank, hmagnitude⟩ := exists_ofMagnitude_of_isExact exact' (decide (n < 0))
  rw [ofRat_intCast, hrank, place?, signed_eq_intCast hmagnitude]

end Double

theorem two_pow_le_ten_pow {i k : Nat} (h : i ≤ 3 * k) : 2 ^ i ≤ 10 ^ k :=
  calc 2 ^ i ≤ 2 ^ (3 * k) := Nat.pow_le_pow_right (by decide) h
    _ = (2 ^ 3) ^ k := Nat.pow_mul 2 3 k
    _ ≤ 10 ^ k := Nat.pow_le_pow_left (by decide) k

/-- The integer of a literal is rounded with the sign of the literal, unless it is zero. -/
theorem IntegerLiteral.ofRat_exact {l : IntegerLiteral} (hne : ofDigits l.digits ≠ 0) :
    Double.ofRat l.exact = .ofMagnitude l.negative (ofDigits l.digits) := by
  have habs : l.exact.natAbs = ofDigits l.digits := by
    rw [exact]
    split <;> omega
  have hsign : decide (l.exact < 0) = l.negative := by
    rw [exact]
    cases l.negative with
    | false => exact decide_eq_false (by simp)
    | true => exact decide_eq_true (by simp; omega)
  rw [Double.ofRat_intCast, habs, hsign]

/-- The digits of an integer, read as a decimal literal, are the double nearest to the integer. -/
theorem DecimalLiteral.place?_value (l : IntegerLiteral) :
    (DecimalLiteral.mk l.negative l.digits [] 0).value.place? = (Double.ofRat l.exact).place? := by
  by_cases hzero : ofDigits l.digits = 0
  · have hexact : l.exact = 0 := by simp [IntegerLiteral.exact, hzero]
    have hvalue : (DecimalLiteral.mk l.negative l.digits [] 0).value = .signedZero l.negative := by
      simp [value, hzero]
    have hplace (negative : Bool) : (Double.signedZero negative).place? = some (.ofRat 0) := by
      cases negative <;> simp [Double.signedZero, Double.place?, Double.signed, Double.magnitude,
        Double.significand, Double.octave]
    rw [hvalue, hexact, hplace]
    exact (hplace false).symm
  have hpoint : ¬ (0 : Int) - ([] : List Nat).length +
      (Nat.toDigits 10 (ofDigits l.digits)).length < -400 := by
    simp only [List.length_nil]
    omega
  simp only [value, List.append_nil, hzero, hpoint, or_self, if_false]
  rw [IntegerLiteral.ofRat_exact hzero]
  split
  · next long =>
    -- so many digits are those of an integer beyond the doubles
    have hlarge : 2 ^ 1024 ≤ ofDigits l.digits := by
      have hnot : ¬ ofDigits l.digits < 10 ^ 400 := by
        rw [← Nat.length_toDigits_le_iff (by decide) (by decide)]
        simp only [List.length_nil] at long
        omega
      exact (two_pow_le_ten_pow (by decide)).trans (not_lt.mp hnot)
    rw [Double.ofMagnitude_of_large (by exact_mod_cast hlarge)]
  · simp

end Colloquy
