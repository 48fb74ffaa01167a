import Mathlib.Algebra.Ring.Nat
import Mathlib.Data.List.Basic
import Colloquy.Number.Basic
import Colloquy.Proofs.Number.Reading

/-!
# Written integers

An integer is written in decimal digits, behind a minus sign if it is negative, and read back
exactly, of whatever size, as long as its digits are not too many.

* `IsShort`: an integer with no more digits than the limit;
* `integerText_eq_ok_iff`: just these can be written;
* `isShort_of_value`: a literal denotes no others;
* `IntegerLiteral.read?_toString`: what is written is read back.
-/

namespace Colloquy

open Text

/-- An integer with no more decimal digits than the limit. -/
def IsShort (n : Int) : Prop := (Nat.toDigits 10 n.natAbs).length ≤ digitLimit

instance (n : Int) : Decidable (IsShort n) := inferInstanceAs (Decidable (_ ≤ _))

theorem isShort_iff {n : Int} : IsShort n ↔ n.natAbs < 10 ^ digitLimit :=
  Nat.length_toDigits_le_iff (by decide) (by decide)

/-- Just the short integers can be written. -/
theorem integerText_eq_ok_iff {n : Int} {s : String} :
    integerText n = .ok s ↔ IsShort n ∧ s = toString n := by
  unfold integerText IsShort
  split
  · next long => exact ⟨nofun, fun ⟨short, _⟩ => absurd short (Nat.not_le.mpr long)⟩
  · next short =>
    refine ⟨fun h => ⟨Nat.not_lt.mp short, (Except.ok.inj h).symm⟩, ?_⟩
    rintro ⟨-, rfl⟩
    rfl

/-! ### Literals -/

/-- So many digits spell no greater number. -/
theorem ofDigits_lt {digits : List Nat} (h : ∀ d ∈ digits, d < 10) :
    ofDigits digits < 10 ^ digits.length := by
  have hfold (n : Nat) : digits.foldl (fun n d => 10 * n + d) n < (n + 1) * 10 ^ digits.length := by
    induction digits generalizing n with
    | nil => simp
    | cons d rest ih =>
      obtain ⟨hd, hrest⟩ := List.forall_mem_cons.mp h
      calc rest.foldl (fun n d => 10 * n + d) (10 * n + d)
          < (10 * n + d + 1) * 10 ^ rest.length := ih hrest _
        _ ≤ (10 * (n + 1)) * 10 ^ rest.length := Nat.mul_le_mul_right _ (by omega)
        _ = (n + 1) * 10 ^ (rest.length + 1) := by
          rw [Nat.pow_succ, Nat.mul_comm 10, Nat.mul_assoc, Nat.mul_comm 10]
  have hzero := hfold 0
  rwa [Nat.zero_add, Nat.one_mul] at hzero

theorem digitValues?_lt {s : List Char} {values : List Nat} (h : digitValues? s = some values) :
    ∀ d ∈ values, d < 10 := by
  induction s generalizing values with
  | nil =>
    cases h
    nofun
  | cons c rest ih =>
    simp only [digitValues?, List.mapM_cons, Option.bind_eq_bind, Option.bind_eq_some_iff,
      Option.pure_def, Option.some.injEq] at h
    obtain ⟨value, hvalue, values', hvalues, rfl⟩ := h
    exact List.forall_mem_cons.mpr ⟨digitValue?_lt hvalue, ih hvalues⟩

/-- An integer that a literal denotes is short, since its digits have been counted. -/
theorem isShort_of_value {s : List Char} {l : IntegerLiteral} {n : Int}
    (reading : IntegerLiteral.read? s = some l) (value : l.value = .ok n) : IsShort n := by
  unfold IntegerLiteral.value at value
  split at value
  · cases value
  · next short =>
    cases value
    have hdigits : ∀ d ∈ l.digits, d < 10 := by
      unfold IntegerLiteral.read? at reading
      split at reading
      · next hvalues =>
        cases reading
        exact digitValues?_lt hvalues
      · cases reading
    have habs : l.exact.natAbs = ofDigits l.digits := by
      unfold IntegerLiteral.exact
      split <;> simp
    rw [isShort_iff, habs]
    calc ofDigits l.digits < 10 ^ l.digits.length := ofDigits_lt hdigits
      _ ≤ 10 ^ digitLimit := Nat.pow_le_pow_right (by decide) (Nat.not_lt.mp short)

/-! ### Written integers are read back -/

section Ascii

variable {c : Char} {s : List Char}

theorem digitValue?_of_isDigit (h : c.isDigit = true) : digitValue? c = some (c.toNat - 48) := by
  rw [Char.isDigit_iff_toNat] at h
  change 48 ≤ c.toNat ∧ c.toNat ≤ 57 at h
  -- the digits of ASCII are the first block of the table
  have hzeros : zeros = 48 :: zeros.tail := rfl
  have hfirst : (decide (48 ≤ c.toNat) && decide (c.toNat < 48 + 10)) = true := by
    simp only [Bool.and_eq_true, decide_eq_true_eq]
    omega
  rw [digitValue?, hzeros, List.find?_cons, hfirst]
  rfl

theorem isDecimal_of_isDigit (h : c.isDigit = true) : isDecimal c = true := by
  rw [isDecimal, digitValue?_of_isDigit h, Option.isSome_some]

theorem digitValues?_of_isDigit (h : ∀ c ∈ s, c.isDigit = true) :
    digitValues? s = some (s.map (·.toNat - 48)) := by
  have hvalues : s.filterMap digitValue? = s.map (·.toNat - 48) :=
    List.filterMap_eq_map_iff_forall_eq_some.mpr fun c hc => digitValue?_of_isDigit (h c hc)
  rw [digitValues?_of_decimal fun c hc => isDecimal_of_isDigit (h c hc), hvalues]

end Ascii

theorem isDigit_of_mem_digits {n : Nat} {c : Char} (h : c ∈ Nat.toDigits 10 n) :
    c.isDigit = true :=
  Nat.isDigit_of_mem_toDigits (by decide) (by decide) h

/-- Digits spell the number that they were written for. -/
theorem ofDigits_toDigits (n : Nat) : ofDigits ((Nat.toDigits 10 n).map (·.toNat - 48)) = n := by
  have hback : Nat.ofDigitChars 10 (Nat.toDigits 10 n) 0 = n := Nat.ofDigitChars_ten_toDigits
  rw [Nat.ofDigitChars_eq_foldl] at hback
  rwa [ofDigits, List.foldl_map]

/-- The sign that a written integer starts with. -/
def signText (n : Int) : List Char := if n < 0 then ['-'] else []

theorem toList_toString (n : Int) :
    (toString n).toList = signText n ++ Nat.toDigits 10 n.natAbs := by
  rw [Int.toString_eq_repr]
  cases n with
  | ofNat m => simp [Int.repr, signText, Nat.toList_repr]
  | negSucc m =>
    simp [Int.repr, signText, Nat.toList_repr, Int.negSucc_lt_zero]

/-- What is written for an integer is a literal of it, which has a value if the integer is short. -/
theorem IntegerLiteral.read?_toString {n : Int} (short : IsShort n) :
    ∃ l, IntegerLiteral.read? (toString n).toList = some l ∧ l.value = .ok n := by
  have hdigit : ∀ c ∈ Nat.toDigits 10 n.natAbs, c.isDigit = true := fun c => isDigit_of_mem_digits
  have hsign : splitSign (toString n).toList = (decide (n < 0), Nat.toDigits 10 n.natAbs) := by
    rw [toList_toString, signText]
    split
    · next negative =>
      rw [decide_eq_true negative]
      rfl
    · next nonnegative =>
      rw [decide_eq_false nonnegative]
      exact splitSign_of_digits fun c hc =>
        isDigitLike_of_isDecimal (isDecimal_of_isDigit (hdigit c hc))
  obtain ⟨d, ds, hvalues⟩ :
      ∃ d ds, (Nat.toDigits 10 n.natAbs).map (·.toNat - 48) = d :: ds :=
    List.exists_cons_of_ne_nil (by simp)
  refine ⟨⟨decide (n < 0), d :: ds⟩, ?_, ?_⟩
  · simp only [read?, hsign, digitValues?_of_isDigit hdigit, hvalues]
  · have hlength : (d :: ds).length ≤ digitLimit := by
      rw [← hvalues, List.length_map]
      exact short
    have hexact : exact ⟨decide (n < 0), d :: ds⟩ = n := by
      simp only [exact, ← hvalues, ofDigits_toDigits, decide_eq_true_eq]
      split <;> omega
    rw [value, if_neg (Nat.not_lt.mpr hlength), hexact]

end Colloquy
