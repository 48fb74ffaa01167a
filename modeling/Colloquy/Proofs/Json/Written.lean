import Colloquy.Json.Basic
import Colloquy.Proofs.Failure

/-!
# Written values

Which values cannot be written in a message, and why.

* `HoldsLong`: a value with an integer that has too many digits;
* `failsAs_written`, `failsAs_display`: exactly such values cannot be written.
-/

namespace Colloquy.Json

/-- Somewhere in a value there is an integer with too many digits to be written. -/
inductive HoldsLong : Json → Prop
  | integer {n : Int} (long : digitLimit < (Nat.toDigits 10 n.natAbs).length) :
      HoldsLong (.integer n)
  | item {items : List Json} {item : Json} (mem : item ∈ items) (holds : HoldsLong item) :
      HoldsLong (.list items)
  | member {members : Members} {key : String} {value : Json} (mem : (key, value) ∈ members)
      (holds : HoldsLong value) : HoldsLong (.object members)

/-- A value that cannot be written, and the failure that comes of it. -/
def Unwritable (value : Json) (e : NumberError) : Prop := value.HoldsLong ∧ e = .tooLongToWrite

theorem holdsLong_list_iff {items : List Json} :
    HoldsLong (.list items) ↔ ∃ item ∈ items, item.HoldsLong := by
  constructor
  · intro h
    cases h with
    | item mem holds => exact ⟨_, mem, holds⟩
  · rintro ⟨item, mem, holds⟩
    exact .item mem holds

theorem holdsLong_object_iff {members : Members} :
    HoldsLong (.object members) ↔ ∃ member ∈ members, member.2.HoldsLong := by
  constructor
  · intro h
    cases h with
    | member mem holds => exact ⟨_, mem, holds⟩
  · rintro ⟨⟨key, value⟩, mem, holds⟩
    exact .member mem holds

theorem failsAs_integerText (n : Int) : FailsAs (integerText n) (Unwritable (.integer n)) := by
  intro e
  unfold integerText
  split
  · next long =>
    constructor
    · intro h
      cases h
      exact ⟨.integer long, rfl⟩
    · rintro ⟨-, rfl⟩
      rfl
  · next short =>
    refine ⟨nofun, ?_⟩
    rintro ⟨⟨long⟩, -⟩
    exact absurd long short

mutual

/-- A value cannot be written exactly if it holds an integer with too many digits. -/
theorem failsAs_written (value : Json) : FailsAs value.written value.Unwritable := by
  cases value with
  | integer n => exact failsAs_integerText n
  | list items =>
    -- all items fail in the same way, so it does not matter which one comes first
    refine ((failsAs_writtenItems items).map _).congr fun e => ?_
    exact firstFails_same_iff.trans (and_congr_left' holdsLong_list_iff.symm)
  | object members =>
    refine ((failsAs_writtenMembers members).map _).congr fun e => ?_
    exact firstFails_same_iff.trans (and_congr_left' holdsLong_object_iff.symm)
  | null | flag | real | text =>
    intro e
    refine ⟨nofun, ?_⟩
    rintro ⟨⟨⟩, -⟩

theorem failsAs_writtenItems (items : List Json) :
    FailsAs (writtenItems items) (FirstFails Unwritable items) := by
  cases items with
  | nil => exact fun e => ⟨nofun, nofun⟩
  | cons item rest => exact (failsAs_written item).cons (failsAs_writtenItems rest) _

theorem failsAs_writtenMembers (members : Members) :
    FailsAs (writtenMembers members) (FirstFails (fun member => member.2.Unwritable) members) := by
  cases members with
  | nil => exact fun e => ⟨nofun, nofun⟩
  | cons member rest =>
    refine FailsAs.cons ?_ (failsAs_writtenMembers rest) _
    exact failsAs_written member.2

end

/-- A text is shown as it is, so only other values may fail. -/
theorem failsAs_display (value : Json) : FailsAs value.display value.Unwritable := by
  cases value with
  | text s =>
    intro e
    refine ⟨nofun, ?_⟩
    rintro ⟨⟨⟩, -⟩
  | null | flag | integer | real | list | object => exact failsAs_written _

end Colloquy.Json
