import Colloquy.CommandLine.Program
import Colloquy.Proofs.Number.Reading

/-!
# Reading lines

What a line of the player is read as, and which lines cannot be read.  A line that consists of
digits is taken for a number, in a sense of digits that is wider than the one in which numbers are
written.

* `Command.fits_of_continue`, `fits_of_choose`: a line that asks to go on has nothing wrong with it;
* `Command.IsComplete`, `isComplete_of_read`: a line without an error has all that its verb needs;
* `Command.Unreadable`: a line of digits without a number;
* `Command.read_eq_error_iff`: only such a line cannot be read;
* `Command.read_breaks_off`: and at such a line the program breaks off.
-/

namespace Colloquy

open Text

/-! ### Lines that have been read -/

namespace Command

variable {line raw : String} {s : List Char} {command : Command} {e : NumberError}

/-- A line of words never picks a response. -/
theorem verb_ofWords_ne_choose (raw : String) (words : List (List Char)) :
    (ofWords raw words).verb ≠ some .choose := by
  unfold ofWords
  dsimp only
  split
  · nofun
  · next verb hverb =>
    have hne := (Option.filter_eq_some_iff.mp hverb).2
    simpa using hne

/-- A line of words that asks to go on has nothing wrong with it. -/
theorem error_ofWords_of_continue {words : List (List Char)}
    (onward : (ofWords raw words).verb = some .continue) : (ofWords raw words).error = none := by
  unfold ofWords at onward ⊢
  dsimp only at onward ⊢
  split at onward
  · cases onward
  · cases onward
    rfl

/-- A number that picks a response picks it by an index that is not negative. -/
theorem fits_ofNumber {number : Int} (picks : (ofNumber raw number).verb = some .choose) :
    (ofNumber raw number).error = none ∧
      ∃ index, (ofNumber raw number).choiceIndex = some index ∧ 0 ≤ index := by
  unfold ofNumber at picks ⊢
  split at picks
  · cases picks
  · next positive =>
    rw [if_neg positive]
    exact ⟨rfl, number - 1, rfl, by omega⟩

/-- A line is a number or made of words. -/
theorem read_cases (reading : read line = .ok command) :
    (∃ raw number, command = ofNumber raw number) ∨ ∃ raw words, command = ofWords raw words := by
  unfold read at reading
  dsimp only at reading
  split at reading
  · cases hnumber : readInteger (String.ofList (Text.trim line.toList)) with
    | error e =>
      rw [hnumber] at reading
      cases reading
    | ok number =>
      rw [hnumber] at reading
      exact .inl ⟨_, number, (Except.ok.inj reading).symm⟩
  · exact .inr ⟨_, _, (Except.ok.inj reading).symm⟩

/-- A line that asks to go on has nothing wrong with it. -/
theorem fits_of_continue (reading : read line = .ok command)
    (onward : command.verb = some .continue) : command.error = none := by
  rcases read_cases reading with ⟨raw, number, rfl⟩ | ⟨raw, words, rfl⟩
  · unfold ofNumber at onward
    split at onward <;> cases onward
  · exact error_ofWords_of_continue onward

/-- A line that picks a response has nothing wrong with it, and its index is not negative. -/
theorem fits_of_choose (reading : read line = .ok command)
    (picks : command.verb = some .choose) :
    command.error = none ∧ ∃ index, command.choiceIndex = some index ∧ 0 ≤ index := by
  rcases read_cases reading with ⟨raw, number, rfl⟩ | ⟨raw, words, rfl⟩
  · exact fits_ofNumber picks
  · exact absurd picks (verb_ofWords_ne_choose raw words)

/-! ### Complete commands -/

/-- A command with all that its verb needs. -/
structure IsComplete (command : Command) : Prop where
  known : ∃ verb, command.verb = some verb
  choose : command.verb = some .choose → ∃ index, command.choiceIndex = some index ∧ 0 ≤ index
  goto : command.verb = some .goto → ∃ id, command.arguments = [id]
  set : command.verb = some .set → ∃ name value values, command.arguments = name :: value :: values

theorem arguments_of_fitting {verb : Verb} {arguments : List String}
    (fitting : argumentError? verb arguments = none) :
    (verb = .goto → ∃ id, arguments = [id]) ∧
      (verb = .set → ∃ name value values, arguments = name :: value :: values) := by
  unfold argumentError? at fitting
  constructor
  · rintro rfl
    rcases arguments with _ | ⟨id, _ | ⟨other, rest⟩⟩
    · cases fitting
    · exact ⟨id, rfl⟩
    · simp at fitting
  · rintro rfl
    rcases arguments with _ | ⟨name, _ | ⟨value, values⟩⟩
    · cases fitting
    · cases fitting
    · exact ⟨name, value, values, rfl⟩

/-- A line without an error has a verb, and arguments that fit it. -/
theorem exists_verb_of_read (reading : read line = .ok command) (fitting : command.error = none) :
    ∃ verb, command.verb = some verb ∧ argumentError? verb command.arguments = none := by
  rcases read_cases reading with ⟨raw, number, rfl⟩ | ⟨raw, words, rfl⟩
  · unfold ofNumber at fitting ⊢
    split at fitting
    · cases fitting
    · next positive =>
      rw [if_neg positive]
      exact ⟨.choose, rfl, rfl⟩
  · unfold ofWords at fitting ⊢
    dsimp only at fitting ⊢
    split at fitting
    · cases fitting
    · next verb _ => exact ⟨verb, rfl, fitting⟩

/-- A line without an error is complete. -/
theorem isComplete_of_read (reading : read line = .ok command) (fitting : command.error = none) :
    command.IsComplete := by
  obtain ⟨verb, asks, harguments⟩ := exists_verb_of_read reading fitting
  obtain ⟨hgoto, hset⟩ := arguments_of_fitting harguments
  exact {
    known := ⟨verb, asks⟩
    choose := fun picks => (fits_of_choose reading picks).2
    goto := fun jumps => hgoto (Option.some.inj (asks.symm.trans jumps))
    set := fun sets => hset (Option.some.inj (asks.symm.trans sets)) }

/-! ### Lines that cannot be read -/

/-- A text of digits, in the wide sense, that spells no number, and why it does not. -/
inductive Unreadable (s : List Char) : NumberError → Prop
  /-- One of the digits is none that numbers are written with. -/
  | otherDigit (digits : ∀ c ∈ s, isDigitLike c = true) (other : ∃ c ∈ s, isDecimal c = false)
      (short : (s.takeWhile isDecimal).length ≤ digitLimit) :
      Unreadable s (.notInteger (String.ofList s))
  /-- There are too many digits. -/
  | tooLong (digits : ∀ c ∈ s, isDigitLike c = true)
      (long : digitLimit < (s.takeWhile isDecimal).length) :
      Unreadable s (.tooManyDigits (s.takeWhile isDecimal).length)

theorem isNumber_iff : isNumber s = true ↔ s ≠ [] ∧ ∀ c ∈ s, isDigitLike c = true := by
  simp [isNumber]

theorem Unreadable.isNumber (unreadable : Unreadable s e) : isNumber s = true := by
  rw [isNumber_iff]
  cases unreadable with
  | otherDigit digits other =>
    obtain ⟨c, hc, -⟩ := other
    exact ⟨List.ne_nil_of_mem hc, digits⟩
  | tooLong digits long =>
    refine ⟨?_, digits⟩
    rintro rfl
    exact absurd long (Nat.not_lt_zero _)

theorem all_isDecimal_eq_false_iff : s.all isDecimal = false ↔ ∃ c ∈ s, isDecimal c = false := by
  simp only [List.all_eq_false, Bool.not_eq_true]

/-- A text of digits has no number exactly if it is one of the two kinds. -/
theorem readInteger_eq_error_iff (number : Command.isNumber s = true) :
    readInteger (String.ofList s) = .error e ↔ Unreadable s e := by
  obtain ⟨hs, digits⟩ := isNumber_iff.mp number
  rw [readInteger_of_digits hs digits]
  constructor
  · intro h
    split at h
    · next long =>
      cases h
      exact .tooLong digits long
    · next short =>
      split at h
      · next other =>
        cases h
        exact .otherDigit digits (all_isDecimal_eq_false_iff.mp other) (Nat.not_lt.mp short)
      · cases h
  · rintro (⟨-, other, short⟩ | ⟨-, long⟩)
    · rw [if_neg (Nat.not_lt.mpr short), if_pos (all_isDecimal_eq_false_iff.mpr other)]
    · rw [if_pos long]

/-- Only a line of digits cannot be read. -/
theorem read_eq_error_iff : read line = .error e ↔ Unreadable (trim line.toList) e := by
  unfold read
  dsimp only
  cases number : Command.isNumber (trim line.toList) with
  | false =>
    rw [if_neg Bool.false_ne_true]
    refine ⟨nofun, fun unreadable => ?_⟩
    rw [unreadable.isNumber] at number
    cases number
  | true =>
    rw [if_pos rfl, ← readInteger_eq_error_iff number]
    cases readInteger (String.ofList (trim line.toList)) with
    | error e' =>
      exact ⟨fun h => congrArg _ (Except.error.inj h), fun h => congrArg _ (Except.error.inj h)⟩
    | ok _ => exact ⟨nofun, nofun⟩

/-- A line of digits does not ask to leave. -/
theorem isFarewell_of_isNumber (number : Command.isNumber (trim line.toList) = true) :
    CommandLine.isFarewell line = false := by
  obtain ⟨-, digits⟩ := isNumber_iff.mp number
  -- each word to leave with has a letter, which is no digit
  have hword (word : String) (c : Char) (hc : c ∈ word.toList) (hdigit : isDigitLike c = false) :
      String.ofList (trim line.toList) ≠ word := by
    rintro rfl
    rw [String.toList_ofList] at hc
    rw [digits c hc] at hdigit
    cases hdigit
  have hquit := hword "quit" 'q' (by decide) (by decide)
  have hexit := hword "exit" 'e' (by decide) (by decide)
  simp [CommandLine.isFarewell, lower_of_digits digits, hquit, hexit]

/-- **A line cannot be read exactly if it is a text of digits that spells no number, and then the
program breaks off there, whatever is being played.** -/
theorem read_breaks_off (line : String) (e : NumberError) :
    (read line = .error e ↔ Unreadable (trim line.toList) e) ∧
      (Unreadable (trim line.toList) e → ∀ preview,
        CommandLine.answer preview line =
          ("", .broken (.command (.number e)) preview.sources)) := by
  refine ⟨read_eq_error_iff, fun unreadable preview => ?_⟩
  have hread := read_eq_error_iff.mpr unreadable
  rw [CommandLine.answer, isFarewell_of_isNumber unreadable.isNumber, Preview.handleLine, hread]
  rfl

/-- A superscript is a digit that numbers are not written with. -/
theorem read_breaks_off_at_superscript :
    read "²" = .error (.notInteger "²") ∧ ∀ preview,
      CommandLine.answer preview "²" =
        ("", .broken (.command (.number (.notInteger "²"))) preview.sources) := by
  have unreadable : Unreadable ['²'] (.notInteger "²") :=
    .otherDigit (List.forall_mem_singleton.mpr (by decide))
      ⟨'²', List.mem_singleton_self '²', by decide⟩ (by decide)
  obtain ⟨hread, hanswer⟩ := read_breaks_off "²" (.notInteger "²")
  exact ⟨hread.mpr unreadable, hanswer unreadable⟩

end Command

end Colloquy
