import Mathlib.Tactic.Ring
import Colloquy.Proofs.Number.Rounding

/-!
# Shares

Rounding keeps a number below every small integer that it lies below, so a share stays one when it
is rounded, and its percentage is one of a hundred.

* `magnitude_rank`: the magnitude of an exponent and a significand;
* `exists_ofMagnitude_le`: the nearest double does not lead beyond an integer;
* `Double.IsShare`: a double between zero and one;
* `isShare_ofRat`, `IsShare.exists_percent`: shares and their percentages.
-/

namespace Colloquy

theorem le_roundEven {q : Rat} {n : Int} (h : n ≤ q) : n ≤ roundEven q := by
  have hfloor : n ≤ q.floor := Rat.le_floor_iff.mpr h
  unfold roundEven
  dsimp only
  split
  · exact hfloor
  · split
    · omega
    · split <;> omega

namespace Double

/-- The magnitude of the rank that an exponent and a significand make up. -/
theorem magnitude_rank {e : Int} {n : Nat} (he : -1074 ≤ e) (hn : n ≤ 2 * octave)
    (normal : e = -1074 ∨ octave ≤ n) :
    magnitude ((e + 1074).toNat * octave + n) = n * 2 ^ e := by
  have hoctave : 0 < octave := by decide
  generalize hE : (e + 1074).toNat = E
  have heE : e = (E : Int) - 1074 := by omega
  rcases Nat.lt_or_ge n octave with hsmall | hlarge
  · -- a number without a full significand has the least exponent
    have hzero : E = 0 := by omega
    have hdiv : n / octave = 0 := Nat.div_eq_of_lt hsmall
    simp only [magnitude, significand, exponent, hzero, Nat.zero_mul, Nat.zero_add, hdiv, hsmall,
      if_true, heE]
    norm_num
  rcases Nat.lt_or_ge n (2 * octave) with hlt | hge
  · obtain ⟨m, rfl⟩ := Nat.exists_eq_add_of_le hlarge
    have hm : m < octave := by omega
    have hrank : E * octave + (octave + m) = m + octave * (E + 1) := by ring
    have hdiv : (m + octave * (E + 1)) / octave = E + 1 := by
      rw [Nat.add_mul_div_left _ _ hoctave, Nat.div_eq_of_lt hm, Nat.zero_add]
    have hmod : (m + octave * (E + 1)) % octave = m := by
      rw [Nat.add_mul_mod_self_left, Nat.mod_eq_of_lt hm]
    have hnot : ¬ m + octave * (E + 1) < octave := by
      rw [Nat.mul_add]
      omega
    have hexp : ((max (E + 1) 1 : Nat) : Int) - 1075 = e := by omega
    simp only [magnitude, significand, exponent, hrank, hdiv, hmod, hnot, if_false, hexp]
  · -- the power of two behind the significands carries into the exponent
    obtain rfl : n = 2 * octave := by omega
    have hrank : E * octave + 2 * octave = octave * (E + 2) := by ring
    have hdiv : octave * (E + 2) / octave = E + 2 := Nat.mul_div_cancel_left _ hoctave
    have hmod : octave * (E + 2) % octave = 0 := Nat.mul_mod_right _ _
    have hnot : ¬ octave * (E + 2) < octave := by
      rw [Nat.mul_add]
      omega
    have hexp : ((max (E + 2) 1 : Nat) : Int) - 1075 = 1 + e := by omega
    simp only [magnitude, significand, exponent, hrank, hdiv, hmod, hnot, if_false, hexp,
      two_zpow_add]
    push_cast
    ring

/-- Rounding does not lead beyond an integer that a significand can hold. -/
theorem exists_ofMagnitude_le {q : Rat} {n : Nat} (nonneg : 0 ≤ q) (hq : q ≤ n) (hn : n < octave)
    (negative : Bool) :
    ∃ rank, ofMagnitude negative q = .finite negative rank ∧ magnitude rank.val ≤ n := by
  have hpow : (n : Rat) < 2 ^ (52 : Int) := by
    have hlt : (n : Rat) < octave := by exact_mod_cast hn
    exact hlt.trans_eq (by norm_num [octave])
  by_cases hzero : q = 0
  · subst hzero
    have hmagnitude : magnitude 0 = 0 := by simp [magnitude, significand, octave]
    exact ⟨0, by simp [ofMagnitude], by simp [hmagnitude]⟩
  obtain ⟨rank, hrank, -⟩ :=
    exists_ofMagnitude nonneg (hq.trans_lt hpow) (k := 52) (by decide) negative
  obtain ⟨hge, hlt⟩ := log2Floor_spec (lt_of_le_of_ne nonneg (Ne.symm hzero))
  have hlog : log2Floor q < 52 :=
    (zpow_lt_zpow_iff_right₀ one_lt_two).mp ((hge.trans hq).trans_lt hpow)
  refine ⟨rank, hrank, ?_⟩
  unfold ofMagnitude at hrank
  rw [if_neg hzero] at hrank
  dsimp only at hrank
  generalize he : max (log2Floor q - 52) (-1074) = e at hrank
  split at hrank
  case isFalse => cases hrank
  cases hrank
  have hbelow := roundEven_significand_le hlt (e := e) (by omega)
  have habove (hnormal : e ≠ -1074) : (octave : Int) ≤ roundEven (q / 2 ^ e) := by
    refine le_roundEven ((le_div_iff₀ (two_zpow_pos e)).mpr ?_)
    calc ((octave : Int) : Rat) * 2 ^ e = 2 ^ ((52 : Int) + e) := by
          rw [two_zpow_add]; norm_num [octave]
      _ ≤ 2 ^ log2Floor q := two_zpow_le (by omega)
      _ ≤ q := hge
  -- the exponent is negative, so the integer is a multiple of its power of two
  have hcancel : ((n * 2 ^ (-e).toNat : Nat) : Rat) * 2 ^ e = n := by
    have hexp : ((-e).toNat : Int) + e = 0 := by omega
    push_cast
    rw [← zpow_natCast, mul_assoc, ← two_zpow_add, hexp, zpow_zero, mul_one]
  have hround : roundEven (q / 2 ^ e) ≤ (n * 2 ^ (-e).toNat : Nat) := by
    refine roundEven_le ((div_le_iff₀ (two_zpow_pos e)).mpr ?_)
    calc q ≤ n := hq
      _ = ((n * 2 ^ (-e).toNat : Nat) : Int) * 2 ^ e := by rw [Int.cast_natCast, hcancel]
  rw [magnitude_rank (by omega) (by omega) (by omega), ← hcancel]
  exact mul_le_mul_of_nonneg_right (by exact_mod_cast Int.toNat_le.mpr hround) (two_zpow_pos _).le

theorem exists_ofRat_le {q : Rat} {n : Nat} (nonneg : 0 ≤ q) (hq : q ≤ n) (hn : n < octave) :
    ∃ rank, ofRat q = .finite false rank ∧ magnitude rank.val ≤ n := by
  rw [ofRat, if_neg (not_lt.mpr nonneg)]
  exact exists_ofMagnitude_le nonneg hq hn false

/-! ### Shares -/

/-- A double between zero and one. -/
def IsShare (x : Double) : Prop :=
  ∃ rank, x = .finite false rank ∧ 0 ≤ magnitude rank.val ∧ magnitude rank.val ≤ 1

theorem isShare_zero : zero.IsShare :=
  ⟨0, rfl, magnitude_nonneg _, by simp [magnitude, significand, octave]⟩

/-- The share of a part in a whole. -/
theorem isShare_ofRat {part whole : Nat} (h : part ≤ whole) :
    (ofRat (mkRat part whole)).IsShare := by
  have nonneg : 0 ≤ mkRat part whole := Rat.mkRat_nonneg (Int.natCast_nonneg _) _
  have hle : mkRat part whole ≤ (1 : Nat) := by
    rw [Rat.mkRat_eq_div, Nat.cast_one]
    exact div_le_one_of_le₀ (by exact_mod_cast h) (Nat.cast_nonneg _)
  obtain ⟨rank, hrank, hmagnitude⟩ := exists_ofRat_le nonneg hle (by decide)
  exact ⟨rank, hrank, magnitude_nonneg _, by exact_mod_cast hmagnitude⟩

/-- The percentage of a share. -/
theorem IsShare.exists_percent {x : Double} (h : x.IsShare) :
    ∃ n : Nat, (x.mul (.ofRat 100)).toInt = .ok n ∧ n ≤ 100 := by
  obtain ⟨rank, rfl, nonneg, hle⟩ := h
  obtain ⟨hundred, hhundred, hbound⟩ :=
    @exists_ofRat_le 100 100 (by norm_num) (by norm_num) (by decide)
  have hproduct : magnitude rank * magnitude hundred ≤ (100 : Nat) := by
    calc magnitude rank * magnitude hundred ≤ 1 * (100 : Nat) :=
          mul_le_mul hle hbound (magnitude_nonneg _) zero_le_one
      _ = (100 : Nat) := one_mul _
  obtain ⟨product, hfinite, hpercent⟩ := exists_ofMagnitude_le
    (mul_nonneg nonneg (magnitude_nonneg _)) hproduct (by decide) false
  have htoInt : ((Double.finite false rank).mul (.ofRat 100)).toInt =
      .ok (roundEven (magnitude product)) := by
    rw [hhundred, mul, bne_self_eq_false, hfinite]
    rfl
  have hlow : 0 ≤ roundEven (magnitude product) :=
    le_roundEven (by exact_mod_cast magnitude_nonneg _)
  have hhigh : roundEven (magnitude product) ≤ 100 := roundEven_le (by exact_mod_cast hpercent)
  refine ⟨(roundEven (magnitude product)).toNat, ?_, by omega⟩
  rw [htoInt, Int.toNat_of_nonneg hlow]

end Double

end Colloquy
