import Mathlib.Data.Nat.Digits.Defs
import Colloquy.Proofs.Script.Reading

/-!
# Numerals

An integer literal as it is written, with its sign and its digits apart, against the reading of
literals.

* `Numeral`, `Numeral.text`, `Numeral.number`: a literal, its text and the integer it spells;
* `Numeral.text_injective`: a text is at most one numeral;
* `IntegerLiteral.read?_eq_some_iff`: just the texts of numerals are read;
* `Numeral.value_eq_ok_iff`, `Numeral.value_eq_error_iff`: a numeral denotes its integer unless it
  has too many digits.
-/

namespace Colloquy

open Text

/-- An optional sign and at least one decimal digit, of any script. -/
structure Numeral where
  sign : List Char
  digits : List Char
  signed : sign = [] ∨ sign = ['+'] ∨ sign = ['-']
  decimal : ∀ c ∈ digits, isDecimal c = true
  nonempty : digits ≠ []

namespace Numeral

/-- How a numeral is written. -/
def text (n : Numeral) : List Char := n.sign ++ n.digits

/-- The values of the digits of a numeral, in the order in which they are written. -/
def values (n : Numeral) : List Nat := n.digits.filterMap digitValue?

/-- The number that the digits of a numeral spell in base ten, however many they are. -/
def magnitude (n : Numeral) : Nat := Nat.ofDigits 10 n.values.reverse

/-- The integer that a numeral spells. -/
def number (n : Numeral) : Int := if n.sign = ['-'] then -(n.magnitude : Int) else n.magnitude

/-- What a numeral is read as. -/
def literal (n : Numeral) : IntegerLiteral := ⟨decide (n.sign = ['-']), n.values⟩

variable {n n' : Numeral} {c : Char}

theorem isSign_of_mem_sign (h : c ∈ n.sign) : (c == '+' || c == '-') = true := by
  rcases n.signed with hsign | hsign | hsign <;> rw [hsign] at h <;> simp at h <;> simp [h]

theorem stopsAt_digits (n : Numeral) : StopsAt (fun c => c == '+' || c == '-') n.digits := by
  intro c hc
  have hdecimal := n.decimal c (List.mem_of_head? hc)
  rw [← Bool.not_eq_true, Bool.or_eq_true, beq_iff_eq, beq_iff_eq]
  rintro (rfl | rfl) <;> exact absurd hdecimal (by decide)

theorem isBlank_of_mem_text (h : c ∈ n.text) : isBlank c = false :=
  isBlank_of_mem_literal n.signed n.decimal h

theorem isRelationChar_of_mem_text (h : c ∈ n.text) : Condition.isRelationChar c = false :=
  Condition.isRelationChar_of_mem_literal n.signed n.decimal h

/-- A text is at most one numeral. -/
theorem text_injective : Function.Injective text := by
  rintro n n' h
  obtain ⟨hsign, hdigits⟩ := append_inj_of_stopsAt (fun _ => isSign_of_mem_sign)
    (fun _ => isSign_of_mem_sign) n.stopsAt_digits n'.stopsAt_digits h
  cases n
  cases n'
  cases hsign
  cases hdigits
  rfl

theorem length_values (n : Numeral) : n.values.length = n.digits.length :=
  List.filterMap_length_eq_length.mpr n.decimal

end Numeral

/-! ### Reading numerals -/

/-- The digits of a text spell what they stand for in base ten. -/
theorem ofDigits_eq (values : List Nat) : ofDigits values = Nat.ofDigits 10 values.reverse := by
  rw [Nat.ofDigits_eq_foldr, List.foldr_reverse, ofDigits]
  simp only [Nat.cast_id, Nat.add_comm]

namespace Numeral

variable {n : Numeral}

/-- The sign of a numeral is told from its text. -/
theorem splitSign_text (n : Numeral) :
    splitSign n.text = (decide (n.sign = ['-']), n.digits) := by
  obtain ⟨sign, digits, hsign | hsign | hsign, decimal, -⟩ := n <;> subst hsign
  · exact splitSign_of_digits fun c hc => isDigitLike_of_isDecimal (decimal c hc)
  · rfl
  · rfl

/-- A numeral is read as a literal. -/
theorem read?_text (n : Numeral) : IntegerLiteral.read? n.text = some n.literal := by
  obtain ⟨d, ds, hvalues⟩ : ∃ d ds, n.values = d :: ds := by
    refine List.exists_cons_of_ne_nil fun hnil => n.nonempty ?_
    rw [← List.length_eq_zero_iff, ← n.length_values, hnil, List.length_nil]
  have hdigits : digitValues? n.digits = some (d :: ds) := by
    rw [digitValues?_of_decimal n.decimal, ← hvalues, values]
  rw [IntegerLiteral.read?, splitSign_text, hdigits, literal, hvalues]

theorem exact_literal (n : Numeral) : n.literal.exact = n.number := by
  simp only [IntegerLiteral.exact, literal, ofDigits_eq, number, magnitude, decide_eq_true_eq]

theorem value_literal (n : Numeral) :
    n.literal.value =
      if digitLimit < n.digits.length then .error (.tooManyDigits n.digits.length)
      else .ok n.number := by
  have hlength : n.literal.digits.length = n.digits.length := n.length_values
  rw [IntegerLiteral.value, exact_literal, hlength]

/-- A numeral denotes its integer if it has no more digits than the limit. -/
theorem value_eq_ok_iff {k : Int} :
    n.literal.value = .ok k ↔ n.digits.length ≤ digitLimit ∧ n.number = k := by
  rw [value_literal, ← Nat.not_lt]
  split
  · next long => exact ⟨nofun, fun h => absurd long h.1⟩
  · next short => simp [short]

/-- A numeral denotes nothing if it has more digits than the limit. -/
theorem value_eq_error_iff {e : NumberError} :
    n.literal.value = .error e ↔
      digitLimit < n.digits.length ∧ .tooManyDigits n.digits.length = e := by
  rw [value_literal]
  split
  · next long => simp [long]
  · next short => exact ⟨nofun, fun h => absurd h.1 short⟩

end Numeral

/-- Just the texts of numerals are read as literals. -/
theorem IntegerLiteral.read?_eq_some_iff {s : List Char} {l : IntegerLiteral} :
    IntegerLiteral.read? s = some l ↔ ∃ n : Numeral, n.text = s ∧ n.literal = l := by
  constructor
  · intro h
    obtain ⟨sign, signed, hs⟩ := exists_sign s
    obtain ⟨decimal, nonempty⟩ :
        (∀ c ∈ (splitSign s).2, isDecimal c = true) ∧ (splitSign s).2 ≠ [] := by
      unfold read? at h
      split at h
      · next d ds hdigits =>
        obtain ⟨decimal, hlength⟩ := exists_digitValues?_iff.mp ⟨_, hdigits, rfl⟩
        exact ⟨decimal, List.ne_nil_of_length_eq_add_one hlength⟩
      · cases h
    refine ⟨⟨sign, (splitSign s).2, signed, decimal, nonempty⟩, hs.symm, ?_⟩
    have hread := Numeral.read?_text ⟨sign, (splitSign s).2, signed, decimal, nonempty⟩
    rw [Numeral.text, ← hs, h] at hread
    exact (Option.some.inj hread).symm
  · rintro ⟨n, rfl, rfl⟩
    exact n.read?_text

end Colloquy
