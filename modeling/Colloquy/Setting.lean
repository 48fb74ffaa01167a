/-!
# Settings

An option of the program is set to a value.  It is set to none where the mark behind which no word
is an option stands in place of the value.

* `Setting`;
* `Setting.text`: how a setting is shown.
-/

namespace Colloquy

/-- What an option is set to: a value, or none. -/
inductive Setting (α : Type)
  | value (a : α)
  | empty
  deriving DecidableEq

/-- How a setting is shown; one without a value looks like an empty list. -/
def Setting.text {α : Type} (shown : α → String) : Setting α → String
  | .value a => shown a
  | .empty => "[]"

@[simp] theorem Setting.text_value {α : Type} (shown : α → String) (a : α) :
    (Setting.value a).text shown = shown a := rfl

@[simp] theorem Setting.text_empty {α : Type} (shown : α → String) :
    (Setting.empty : Setting α).text shown = "[]" := rfl

end Colloquy
