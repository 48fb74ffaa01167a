/-!
# UTF-8

Octets are read one at a time.  Between two characters nothing is owed; after the first octet of a
longer character a number of octets is owed, the next of which must lie in a range.  The range is
narrower after the four first octets that could start an overlong form, a surrogate or a number
above the last code point.

* `Pending`, `lead`: what the first octet of a character asks for;
* `Utf8Error`: the octets that could not be read and why;
* `decode`.
-/

namespace Colloquy.Text

/-- Why octets are no UTF-8. -/
inductive Utf8Failure
  | invalidStart
  | invalidContinuation
  | unexpectedEnd
  deriving DecidableEq

/-- The wording of a failure. -/
def Utf8Failure.message : Utf8Failure → String
  | .invalidStart => "invalid start byte"
  | .invalidContinuation => "invalid continuation byte"
  | .unexpectedEnd => "unexpected end of data"

/-- The octets from `start` up to, but not with, `stop` that could not be read. -/
structure Utf8Error where
  first : UInt8
  start : Nat
  stop : Nat
  failure : Utf8Failure
  deriving DecidableEq

/-- A character whose first octet, at `start`, has been read. -/
structure Pending where
  first : UInt8
  start : Nat
  /-- The number of octets still to come. -/
  owed : Nat
  /-- The least octet that may come next. -/
  low : Nat
  /-- The greatest octet that may come next. -/
  high : Nat
  /-- The bits read so far. -/
  bits : Nat

/-- What the first octet `b` of a longer character asks for, if it can be one. -/
def lead (b : UInt8) (start : Nat) : Option Pending :=
  let n := b.toNat
  if n < 0xC2 then none
  else if n < 0xE0 then some ⟨b, start, 1, 0x80, 0xBF, n - 0xC0⟩
  else if n < 0xF0 then
    some ⟨b, start, 2, if n = 0xE0 then 0xA0 else 0x80, if n = 0xED then 0x9F else 0xBF, n - 0xE0⟩
  else if n < 0xF5 then
    some ⟨b, start, 3, if n = 0xF0 then 0x90 else 0x80, if n = 0xF4 then 0x8F else 0xBF, n - 0xF0⟩
  else none

/-- The error of a character that was begun and could not be finished at `stop`. -/
def Pending.failed (p : Pending) (stop : Nat) (failure : Utf8Failure) : Utf8Error :=
  ⟨p.first, p.start, stop, failure⟩

/-- Read the octets from `position` on; `read` holds the characters so far, the last one first. -/
def decodeFrom (position : Nat) (read : List Char) :
    Option Pending → List UInt8 → Except Utf8Error (List Char)
  | none, [] => .ok read.reverse
  | some p, [] => .error (p.failed position .unexpectedEnd)
  | none, b :: rest =>
    if b.toNat < 0x80 then decodeFrom (position + 1) (Char.ofNat b.toNat :: read) none rest
    else
      match lead b position with
      | none => .error ⟨b, position, position + 1, .invalidStart⟩
      | some p => decodeFrom (position + 1) read (some p) rest
  | some p, b :: rest =>
    if p.low ≤ b.toNat ∧ b.toNat ≤ p.high then
      let bits := p.bits * 64 + (b.toNat - 0x80)
      if p.owed = 1 then decodeFrom (position + 1) (Char.ofNat bits :: read) none rest
      else
        decodeFrom (position + 1) read
          (some { p with owed := p.owed - 1, low := 0x80, high := 0xBF, bits := bits }) rest
    else .error (p.failed position .invalidContinuation)

/-- The text that octets spell. -/
def decode (octets : List UInt8) : Except Utf8Error String :=
  (decodeFrom 0 [] none octets).map String.ofList

@[simp] theorem decode_nil : decode [] = .ok "" := rfl

end Colloquy.Text
