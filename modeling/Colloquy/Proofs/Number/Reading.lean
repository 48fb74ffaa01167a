import Colloquy.Number.Literal
import Colloquy.Text.Lowercase
import Mathlib.Data.List.TakeWhile

/-!
# Reading numbers

What texts of digits spell, and which plain literals are too long.  Two senses of digits meet here:
the wide one, in which a text looks like a number, and the narrow one, in which numbers are written.

* `Text.digitRanges`: the digits in the wide sense, which are neither blanks nor letters nor marks;
* `readInteger_of_digits`: what such digits spell;
* `Overlong`: a plain integer literal with too many digits;
* `overlong_iff`: just those are read but have no value.
-/

namespace Colloquy

/-! ### Digits -/

namespace Text

variable {c : Char} {s : List Char}

/-- The ranges of the digits in the wide sense. -/
def digitRanges : CharClass := zeros.map (fun start => (start, start + 9)) ++ otherDigits

theorem exists_range_of_isDigitLike (h : isDigitLike c = true) :
    ∃ r ∈ digitRanges, r.1 ≤ c.toNat ∧ c.toNat ≤ r.2 := by
  rw [isDigitLike, Bool.or_eq_true] at h
  rcases h with h | h
  · obtain ⟨n, hn⟩ := Option.isSome_iff_exists.mp h
    obtain ⟨start, hstart, -⟩ := Option.map_eq_some_iff.mp hn
    have hmem := List.mem_of_find?_eq_some hstart
    have hrange := List.find?_some hstart
    simp only [Bool.and_eq_true, decide_eq_true_eq] at hrange
    refine ⟨(start, start + 9), List.mem_append_left _ (List.mem_map_of_mem hmem), ?_⟩
    exact ⟨hrange.1, by omega⟩
  · obtain ⟨r, hr, hrange⟩ := (CharClass.contains_iff _ _).mp h
    exact ⟨r, List.mem_append_right _ hr, hrange⟩

theorem isBlank_of_isDigitLike (h : isDigitLike c = true) : isBlank c = false := by
  obtain ⟨r, hr, hrange⟩ := exists_range_of_isDigitLike h
  have hapart : ∀ r ∈ digitRanges, ∀ b ∈ blanks, r.2 < b.1 ∨ b.2 < r.1 := by decide
  rw [← Bool.not_eq_true, isBlank, CharClass.contains_iff]
  rintro ⟨b, hb, hblank⟩
  have := hapart r hr b hb
  omega

/-- No run of capitals meets a range of digits. -/
theorem run_apart_of_digitRange :
    ∀ run ∈ runs, ∀ r ∈ digitRanges, r.2 < run.first ∨ run.last < r.1 := by
  -- compared as truth values, which is several times faster than deciding the propositions
  have hall : (runs.all fun run => digitRanges.all fun r =>
      Nat.blt r.2 run.first || Nat.blt run.last r.1) = true := by
    decide +kernel
  simpa only [List.all_eq_true, Bool.or_eq_true, Nat.blt_eq] using hall

/-- Digits have no case. -/
theorem lowerChar_of_isDigitLike (h : isDigitLike c = true) : lowerChar c = c := by
  obtain ⟨r, hr, hrange⟩ := exists_range_of_isDigitLike h
  have hnone : runs.find? (·.contains c.toNat) = none := by
    rw [List.find?_eq_none]
    intro run hrun hcontains
    simp only [Run.contains, Bool.and_eq_true, decide_eq_true_eq] at hcontains
    have := run_apart_of_digitRange run hrun r hr
    omega
  rw [lowerChar, hnone]

theorem lower_of_digits (h : ∀ c ∈ s, isDigitLike c = true) : lower s = s := by
  have hafter (before : List Char) : lowerAfter before s = s := by
    induction s generalizing before with
    | nil => rfl
    | cons c rest ih =>
      have hc := h c List.mem_cons_self
      have hsigma : c ≠ 'Σ' := by
        rintro rfl
        exact absurd hc (by decide)
      have hdotted : c ≠ 'İ' := by
        rintro rfl
        exact absurd hc (by decide)
      rw [lowerAfter, if_neg hsigma, if_neg hdotted, lowerChar_of_isDigitLike hc,
        ih fun d hd => h d (List.mem_cons_of_mem c hd)]
      rfl
  exact hafter []

end Text

open Text

/-! ### Integers -/

section Integers

variable {s : List Char}

theorem underscoresBetweenDigits_of_decimal {before : Char} (h : ∀ c ∈ s, isDecimal c = true)
    (hbefore : before ≠ '_') : underscoresBetweenDigits before s = true := by
  induction s generalizing before with
  | nil => simpa [underscoresBetweenDigits] using hbefore
  | cons c rest ih =>
    have hdecimal := h c List.mem_cons_self
    have hc : c ≠ '_' := by
      rintro rfl
      exact absurd hdecimal (by decide)
    have hrest := ih (fun d hd => h d (List.mem_cons_of_mem c hd)) hc
    simp [underscoresBetweenDigits, hc, hdecimal, hrest]

theorem trimOuter_of_digits (h : ∀ c ∈ s, isDigitLike c = true) : trimOuter s = s := by
  have hdrop {t : List Char} (ht : ∀ c ∈ t, isDigitLike c = true) :
      t.dropWhile isOuterBlank = t := by
    cases t with
    | nil => rfl
    | cons c rest =>
      have hc := isBlank_of_isDigitLike (ht c List.mem_cons_self)
      simp [isOuterBlank, hc]
  rw [trimOuter, hdrop h, hdrop (by simpa using h), List.reverse_reverse]

theorem splitSign_of_digits (h : ∀ c ∈ s, isDigitLike c = true) : splitSign s = (false, s) := by
  unfold splitSign
  split
  · exact absurd (h '+' List.mem_cons_self) (by decide)
  · exact absurd (h '-' List.mem_cons_self) (by decide)
  · rfl

/-- The run of digits at the start of a text of digits in the wide sense. -/
theorem takeWhile_of_digits (h : ∀ c ∈ s, isDigitLike c = true) :
    s.takeWhile (fun c => isDecimal c || c == '_') = s.takeWhile isDecimal := by
  induction s with
  | nil => rfl
  | cons c rest ih =>
    have hc : c ≠ '_' := by
      rintro rfl
      exact absurd (h '_' List.mem_cons_self) (by decide)
    have hrest := ih fun d hd => h d (List.mem_cons_of_mem c hd)
    simp [List.takeWhile_cons, hc, hrest]

theorem length_takeWhile_lt_iff :
    (s.takeWhile isDecimal).length < s.length ↔ s.all isDecimal = false := by
  have hstart := List.takeWhile_prefix (l := s) isDecimal
  have hall : (s.takeWhile isDecimal).length = s.length ↔ s.all isDecimal = true := by
    rw [List.all_eq_true, ← List.takeWhile_eq_self_iff]
    exact ⟨hstart.eq_of_length, congrArg List.length⟩
  rw [hstart.length_le.lt_iff_ne, ne_eq, hall, Bool.not_eq_true]

/-- What a text of digits in the wide sense spells.  It is read up to its first digit that numbers
are not written with, and that run may already be too long. -/
theorem readInteger_of_digits (hs : s ≠ []) (h : ∀ c ∈ s, isDigitLike c = true) :
    readInteger (String.ofList s) =
      if digitLimit < (s.takeWhile isDecimal).length then
        .error (.tooManyDigits (s.takeWhile isDecimal).length)
      else if s.all isDecimal = false then .error (.notInteger (String.ofList s))
      else .ok (ofDigits (s.filterMap digitValue?)) := by
  have hdecimal : ∀ c ∈ s.takeWhile isDecimal, isDecimal c = true := fun c hc =>
    List.mem_takeWhile_imp hc
  have hlength : ((s.takeWhile isDecimal).filterMap digitValue?).length =
      (s.takeWhile isDecimal).length :=
    List.filterMap_length_eq_length.mpr hdecimal
  have hempty : ((s.takeWhile isDecimal).filterMap digitValue?).isEmpty = true ↔
      s.takeWhile isDecimal = [] := by
    rw [List.isEmpty_iff, ← List.length_eq_zero_iff, hlength, List.length_eq_zero_iff]
  simp only [readInteger, String.toList_ofList, trimOuter_of_digits h, splitSign_of_digits h,
    takeWhile_of_digits h, underscoresBetweenDigits_of_decimal hdecimal (by decide : ' ' ≠ '_'),
    Bool.not_true, Bool.or_false, hempty, hlength, ← length_takeWhile_lt_iff]
  by_cases hnone : s.takeWhile isDecimal = []
  · -- Without any run the text is not empty, so it holds another digit.
    have hpos := List.length_pos_iff.mpr hs
    simp [hnone, hpos]
  · simp only [hnone, if_false]
    by_cases hlong : digitLimit < (s.takeWhile isDecimal).length
    · simp only [hlong, if_true]
    · by_cases hother : (s.takeWhile isDecimal).length < s.length
      · simp only [hlong, hother, if_false, if_true]
      · have hself : s.takeWhile isDecimal = s :=
          (List.takeWhile_prefix isDecimal).eq_of_length
            (Nat.le_antisymm (List.takeWhile_prefix isDecimal).length_le (Nat.not_lt.mp hother))
        simp only [hlong, hother, if_false, IntegerLiteral.value, hlength, IntegerLiteral.exact,
          Bool.false_eq_true]
        rw [hself]

end Integers

/-! ### Plain literals -/

/-- A plain integer literal with too many digits, and the failure that comes of it. -/
inductive Overlong : List Char → NumberError → Prop
  | literal {sign digits : List Char} (signed : sign = [] ∨ sign = ['+'] ∨ sign = ['-'])
      (decimal : ∀ c ∈ digits, isDecimal c = true) (long : digitLimit < digits.length) :
      Overlong (sign ++ digits) (.tooManyDigits digits.length)

section Literals

variable {s : List Char} {e : NumberError}

theorem isDigitLike_of_isDecimal {c : Char} (h : isDecimal c = true) : isDigitLike c = true := by
  rw [isDigitLike, h, Bool.true_or]

/-- Decimal digits have as many values as there are digits, and nothing else has. -/
theorem exists_digitValues?_iff {n : Nat} :
    (∃ values, digitValues? s = some values ∧ values.length = n) ↔
      (∀ c ∈ s, isDecimal c = true) ∧ s.length = n := by
  induction s generalizing n with
  | nil => simp [digitValues?]
  | cons c rest ih =>
    have hcons : digitValues? (c :: rest) =
        (digitValue? c).bind fun value => (digitValues? rest).map (value :: ·) := by
      simp only [digitValues?, List.mapM_cons, Option.bind_eq_bind, Option.pure_def,
        Option.map_eq_bind, Function.comp_def]
    cases hc : digitValue? c with
    | none => simp [hcons, isDecimal, hc]
    | some value =>
      cases n with
      | zero => simp [hcons, hc]
      | succ n =>
        have hdecimal : isDecimal c = true := by rw [isDecimal, hc, Option.isSome_some]
        simp only [hcons, hc, Option.bind_some, Option.map_eq_some_iff, List.forall_mem_cons,
          hdecimal, true_and, List.length_cons, Nat.add_right_cancel_iff, ← ih]
        simp

/-- The values of decimal digits. -/
theorem digitValues?_of_decimal (h : ∀ c ∈ s, isDecimal c = true) :
    digitValues? s = some (s.filterMap digitValue?) := by
  induction s with
  | nil => rfl
  | cons c rest ih =>
    obtain ⟨hc, hrest⟩ := List.forall_mem_cons.mp h
    obtain ⟨value, hvalue⟩ := Option.isSome_iff_exists.mp hc
    have hvalues := ih hrest
    rw [digitValues?] at hvalues ⊢
    rw [List.mapM_cons, hvalue, hvalues, List.filterMap_cons_some hvalue]
    rfl

/-- A text is its sign and what stands behind it. -/
theorem exists_sign (s : List Char) :
    ∃ sign, (sign = [] ∨ sign = ['+'] ∨ sign = ['-']) ∧ s = sign ++ (splitSign s).2 := by
  unfold splitSign
  split
  · exact ⟨['+'], .inr (.inl rfl), rfl⟩
  · exact ⟨['-'], .inr (.inr rfl), rfl⟩
  · exact ⟨[], .inl rfl, rfl⟩

theorem splitSign_append {sign : List Char} (hsign : sign = [] ∨ sign = ['+'] ∨ sign = ['-'])
    (decimal : ∀ c ∈ s, isDecimal c = true) : (splitSign (sign ++ s)).2 = s := by
  rcases hsign with rfl | rfl | rfl
  · rw [List.nil_append, splitSign_of_digits fun c hc => isDigitLike_of_isDecimal (decimal c hc)]
  · rfl
  · rfl

/-- A literal has no value exactly if it has too many digits. -/
theorem overlong_iff :
    (∃ l, IntegerLiteral.read? s = some l ∧ l.value = .error e) ↔ Overlong s e := by
  constructor
  · rintro ⟨l, hread, hvalue⟩
    unfold IntegerLiteral.read? at hread
    split at hread
    · next d ds hdigits =>
      cases hread
      obtain ⟨sign, hsign, hs⟩ := exists_sign s
      obtain ⟨hdecimal, hlength⟩ := exists_digitValues?_iff.mp ⟨_, hdigits, rfl⟩
      unfold IntegerLiteral.value at hvalue
      split at hvalue
      · next long =>
        cases hvalue
        rw [← hlength] at long ⊢
        have hoverlong := Overlong.literal hsign hdecimal long
        rwa [← hs] at hoverlong
      · cases hvalue
    · cases hread
  · rintro @⟨sign, digits, hsign, hdecimal, long⟩
    obtain ⟨values, hvalues, hlength⟩ := exists_digitValues?_iff.mpr ⟨hdecimal, rfl⟩
    cases values with
    | nil =>
      rw [← hlength] at long
      exact absurd long (Nat.not_lt_zero _)
    | cons d ds =>
      refine ⟨⟨(splitSign (sign ++ digits)).1, d :: ds⟩, ?_, ?_⟩
      · simp only [IntegerLiteral.read?, splitSign_append hsign hdecimal, hvalues]
      · simp only [IntegerLiteral.value, hlength, long, if_true]

end Literals

end Colloquy
