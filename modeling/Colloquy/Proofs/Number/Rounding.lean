import Mathlib.Algebra.Order.Field.Power
import Mathlib.Tactic.Linarith
import Mathlib.Tactic.Positivity
import Colloquy.Number.Double

/-!
# Rounding

How far rounding goes: a rational number below a power of two is rounded to a finite double, which
lies below the next power.

* `log2Floor_spec`: the binary logarithm;
* `roundEven_le`: the nearest integer lies below every integer above the number;
* `exists_ofMagnitude`: the nearest double is finite;
* `exists_toInt_mul`: a multiple has a nearest integer.
-/

namespace Colloquy

/-! ### Powers of two -/

theorem two_zpow_pos (k : Int) : (0 : Rat) < 2 ^ k := zpow_pos two_pos k

theorem two_zpow_add (a b : Int) : (2 : Rat) ^ (a + b) = 2 ^ a * 2 ^ b := zpow_add₀ two_ne_zero a b

theorem two_zpow_le {a b : Int} (h : a ≤ b) : (2 : Rat) ^ a ≤ 2 ^ b :=
  zpow_le_zpow_right₀ one_le_two h

theorem two_zpow_log2 {n : Nat} (hn : n ≠ 0) :
    (2 : Rat) ^ (n.log2 : Int) ≤ n ∧ (n : Rat) < 2 ^ ((n.log2 : Int) + 1) := by
  have hge : 2 ^ n.log2 ≤ n := Nat.log2_self_le hn
  have hlt : n < 2 ^ (n.log2 + 1) := Nat.lt_log2_self
  exact ⟨by exact_mod_cast hge, by exact_mod_cast hlt⟩

/-- A logarithm that is taken of the two parts of a fraction is off by less than one. -/
theorem near_log2 {q : Rat} (hq : 0 < q) :
    (2 : Rat) ^ ((q.num.natAbs.log2 - q.den.log2 : Int) - 1) ≤ q ∧
      q < 2 ^ ((q.num.natAbs.log2 - q.den.log2 : Int) + 1) := by
  have hden : (0 : Rat) < q.den := by exact_mod_cast q.den_pos
  have hnum : q * q.den = q.num.natAbs := by
    have habs : (q.num.natAbs : Int) = q.num := Int.natAbs_of_nonneg (Rat.num_pos.mpr hq).le
    rw [Rat.mul_den_eq_num, ← Int.cast_natCast, habs]
  obtain ⟨hnum_ge, hnum_lt⟩ := two_zpow_log2 (Int.natAbs_ne_zero.mpr (Rat.num_pos.mpr hq).ne')
  obtain ⟨hden_ge, hden_lt⟩ := two_zpow_log2 q.den_ne_zero
  constructor
  · refine le_of_mul_le_mul_right ?_ hden
    calc (2 : Rat) ^ ((q.num.natAbs.log2 - q.den.log2 : Int) - 1) * q.den
        ≤ 2 ^ ((q.num.natAbs.log2 - q.den.log2 : Int) - 1) * 2 ^ ((q.den.log2 : Int) + 1) :=
          mul_le_mul_of_nonneg_left hden_lt.le (two_zpow_pos _).le
      _ = 2 ^ (q.num.natAbs.log2 : Int) := by
          rw [← two_zpow_add]
          congr 1
          omega
      _ ≤ q * q.den := hnum ▸ hnum_ge
  · refine lt_of_mul_lt_mul_right ?_ hden.le
    calc q * q.den < 2 ^ ((q.num.natAbs.log2 : Int) + 1) := hnum ▸ hnum_lt
      _ = 2 ^ ((q.num.natAbs.log2 - q.den.log2 : Int) + 1) * 2 ^ (q.den.log2 : Int) := by
          rw [← two_zpow_add]
          congr 1
          omega
      _ ≤ 2 ^ ((q.num.natAbs.log2 - q.den.log2 : Int) + 1) * q.den :=
          mul_le_mul_of_nonneg_left hden_ge (two_zpow_pos _).le

/-- The binary logarithm, rounded down. -/
theorem log2Floor_spec {q : Rat} (hq : 0 < q) :
    (2 : Rat) ^ log2Floor q ≤ q ∧ q < 2 ^ (log2Floor q + 1) := by
  obtain ⟨hge, hlt⟩ := near_log2 hq
  unfold log2Floor
  dsimp only
  split
  · next hle => exact ⟨hle, hlt⟩
  · next hnle =>
    rw [Int.sub_add_cancel]
    exact ⟨hge, not_le.mp hnle⟩

/-! ### Rounding to integers -/

theorem roundEven_le {q : Rat} {n : Int} (h : q ≤ n) : roundEven q ≤ n := by
  have hfloor : (q.floor : Rat) ≤ q := Rat.floor_le q
  have hbelow : q.floor ≤ n := by exact_mod_cast hfloor.trans h
  -- a number that is rounded up lies above its floor, which then lies below `n`
  have habove (hpart : ¬ q - q.floor < 1 / 2) : q.floor + 1 ≤ n := by
    have hlt : (q.floor : Rat) < n := by linarith
    have hlt' : q.floor < n := by exact_mod_cast hlt
    omega
  unfold roundEven
  dsimp only
  split
  · exact hbelow
  · next hpart =>
    split
    · exact habove hpart
    · split
      · exact hbelow
      · exact habove hpart

/-! ### Rounding to doubles -/

namespace Double

theorem significand_lt (rank : Nat) : significand rank < 2 * octave := by
  unfold significand
  have hoctave : 0 < octave := by decide
  have hmod := Nat.mod_lt rank hoctave
  split <;> omega

/-- A rank of one of the first octaves is that of a magnitude below a power of two. -/
theorem magnitude_lt {rank k : Nat} (h : rank ≤ (k + 1023) * octave) :
    magnitude rank < 2 ^ ((k : Int) + 1) := by
  have hsignificand : (significand rank : Rat) < 2 ^ (53 : Int) := by
    exact_mod_cast significand_lt rank
  have hexponent : exponent rank ≤ (k : Int) - 52 := by
    have hdiv : rank / octave ≤ k + 1023 := Nat.div_le_of_le_mul (by rwa [Nat.mul_comm])
    unfold exponent
    omega
  calc magnitude rank = significand rank * 2 ^ exponent rank := rfl
    _ < 2 ^ (53 : Int) * 2 ^ exponent rank :=
        mul_lt_mul_of_pos_right hsignificand (two_zpow_pos _)
    _ ≤ 2 ^ (53 : Int) * 2 ^ ((k : Int) - 52) :=
        mul_le_mul_of_nonneg_left (two_zpow_le hexponent) (two_zpow_pos _).le
    _ = 2 ^ ((k : Int) + 1) := by
        rw [← two_zpow_add]
        congr 1
        omega

theorem magnitude_nonneg (rank : Nat) : 0 ≤ magnitude rank :=
  mul_nonneg (Nat.cast_nonneg _) (two_zpow_pos _).le

/-- A rounded significand has at most 53 binary digits, or is the power of two behind these. -/
theorem roundEven_significand_le {q : Rat} {e : Int} (hlt : q < 2 ^ (log2Floor q + 1))
    (he : log2Floor q - 52 ≤ e) : roundEven (q / 2 ^ e) ≤ (2 * octave : Nat) := by
  refine roundEven_le ((div_le_iff₀ (two_zpow_pos e)).mpr ?_)
  calc q ≤ 2 ^ (log2Floor q + 1) := hlt.le
    _ ≤ 2 ^ ((53 : Int) + e) := two_zpow_le (by omega)
    _ = ((2 * octave : Nat) : Int) * 2 ^ e := by rw [two_zpow_add]; norm_num [octave]

/-- The double nearest to a number below a power of two is finite and lies below the next one. -/
theorem exists_ofMagnitude {q : Rat} {k : Nat} (nonneg : 0 ≤ q) (hq : q < 2 ^ (k : Int))
    (hk : k ≤ 1023) (negative : Bool) :
    ∃ rank, ofMagnitude negative q = .finite negative rank ∧
      magnitude rank.val < 2 ^ ((k : Int) + 1) := by
  unfold ofMagnitude
  split
  · exact ⟨0, rfl, magnitude_lt (Nat.zero_le _)⟩
  · next hzero =>
    obtain ⟨hge, hlt⟩ := log2Floor_spec (lt_of_le_of_ne nonneg (Ne.symm hzero))
    have hlog : log2Floor q < k := (zpow_lt_zpow_iff_right₀ one_lt_two).mp (hge.trans_lt hq)
    dsimp only
    generalize he : max (log2Floor q - 52) (-1074) = e
    have hround := roundEven_significand_le hlt (e := e) (by omega)
    have hrank :
        (e + 1074).toNat * octave + (roundEven (q / 2 ^ e)).toNat ≤ (k + 1023) * octave := by
      have hoctaves : (e + 1074).toNat ≤ k + 1021 := by omega
      calc (e + 1074).toNat * octave + (roundEven (q / 2 ^ e)).toNat
          ≤ (k + 1021) * octave + 2 * octave :=
            Nat.add_le_add (Nat.mul_le_mul_right _ hoctaves) (Int.toNat_le.mpr hround)
        _ = (k + 1023) * octave := by rw [← Nat.add_mul]
    have hfinite : (k + 1023) * octave < 0x7FF0000000000000 := by
      unfold octave
      omega
    rw [dif_pos (hrank.trans_lt hfinite)]
    exact ⟨_, rfl, magnitude_lt hrank⟩

/-- A multiple of a finite double that is not too great has a nearest integer. -/
theorem exists_toInt_mul {negative : Bool} {rank : Fin 0x7FF0000000000000} {n j k : Nat}
    (h : magnitude rank.val < 2 ^ (j : Int)) (hn : (n : Rat) < 2 ^ (k : Int))
    (hk : j + (k + 1) ≤ 1023) :
    ∃ m, ((Double.finite negative rank).mul (.ofRat n)).toInt = .ok m := by
  obtain ⟨factor, hfactor, hlt⟩ := exists_ofMagnitude n.cast_nonneg hn (by omega) false
  have hproduct : magnitude rank * magnitude factor < 2 ^ ((j + (k + 1) : Nat) : Int) := by
    calc magnitude rank * magnitude factor
        < 2 ^ (j : Int) * 2 ^ ((k : Int) + 1) :=
          mul_lt_mul'' h hlt (magnitude_nonneg _) (magnitude_nonneg _)
      _ = 2 ^ ((j + (k + 1) : Nat) : Int) := by rw [← two_zpow_add]; norm_cast
  obtain ⟨product, hfinite, -⟩ := exists_ofMagnitude
    (mul_nonneg (magnitude_nonneg _) (magnitude_nonneg _)) hproduct hk (negative != false)
  have hnot : ¬ (n : Rat) < 0 := not_lt.mpr n.cast_nonneg
  refine ⟨roundEven (signed (negative != false) product), ?_⟩
  rw [ofRat, if_neg hnot, hfactor, mul, hfinite, toInt]

end Double

end Colloquy
