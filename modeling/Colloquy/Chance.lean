import Colloquy.Number.Double

/-!
# Chance from a seed

A sequence of doubles from zero up to, but not with, one, which a seed determines.  The answers come
from mixing a counter, so that each can be computed without those before it.

* `mix`: a bijection of the 64 bit words that leaves no trace of their order;
* `chanceFrom`.
-/

namespace Colloquy

/-- Mix the bits of a word. -/
def mix (word : UInt64) : UInt64 :=
  let a := (word ^^^ (word >>> 30)) * 0xBF58476D1CE4E5B9
  let b := (a ^^^ (a >>> 27)) * 0x94D049BB133111EB
  b ^^^ (b >>> 31)

/-- The answers of chance for a seed: 53 mixed bits as a binary fraction. -/
def chanceFrom (seed : Int) (k : Nat) : Double :=
  let counter := UInt64.ofInt seed + (UInt64.ofNat k + 1) * 0x9E3779B97F4A7C15
  .ofRat (mkRat (mix counter >>> 11).toNat 0x20000000000000)

end Colloquy
