import Colloquy.Proofs.Number.Written
import Colloquy.Proofs.Script.Health
import Colloquy.Proofs.Script.Values

/-!
# Integers of variables

No script puts an integer into a variable that has too many digits to be written: literals count
their digits, the health has bounds, and a record is a text.

* `Value.IsShort`, `Store.IsShort`: values and stores that can be written;
* `Value.Arises.isShort`: the values that statements write are short;
* `isShort_execute`, `isShort_executeScript`: statements and scripts keep a store short;
* `Value.exists_written`: a short value can be written.
-/

namespace Colloquy

/-- A value that is no integer with too many digits. -/
def Value.IsShort (v : Value) : Prop := ∀ n, v = .integer n → Colloquy.IsShort n

/-- A store without integers with too many digits. -/
def Store.IsShort (store : Store) : Prop :=
  ∀ name v, Store.get? store name = some v → v.IsShort

section Values

variable {v : Value}

/-- A short value can be written. -/
theorem Value.exists_written (short : v.IsShort) : ∃ text, v.written = .ok text := by
  cases v with
  | integer n => exact ⟨_, integerText_eq_ok_iff.mpr ⟨short n rfl, rfl⟩⟩
  | text | real | flag => exact ⟨_, rfl⟩

/-- A health is short, since it has bounds. -/
theorem Value.IsHealth.isShort (health : v.IsHealth) : v.IsShort := by
  rintro n rfl
  obtain ⟨least, greatest⟩ := health
  rw [isShort_iff]
  calc n.natAbs < 10 ^ 3 := by omega
    _ ≤ 10 ^ digitLimit := Nat.pow_le_pow_right (by decide) (by decide)

/-- The values that statements write are short. -/
theorem Value.Arises.isShort (arises : v.Arises) : v.IsShort := by
  cases arises with
  | text | flag | decimal => nofun
  | integer reading value =>
    rintro _ ⟨⟩
    exact isShort_of_value reading value
  | health h => exact (isHealth_clampHealth h).isShort

end Values

/-! ### Stores -/

section Stores

variable {store : Store}

theorem Store.isShort_empty : Store.IsShort .empty := allValues_empty _

/-- A statement keeps a store short. -/
theorem isShort_execute (short : Store.IsShort store) (text : String) (sources : Sources) :
    Store.IsShort (execute text store sources).store :=
  allValues_execute (fun _ arises => arises.isShort) short text sources

/-- A script keeps a store short. -/
theorem isShort_executeScript (short : Store.IsShort store) (script : String) (sources : Sources) :
    Store.IsShort (executeScript script store sources).store :=
  allValues_executeScript (fun _ arises => arises.isShort) short script sources

end Stores

end Colloquy
