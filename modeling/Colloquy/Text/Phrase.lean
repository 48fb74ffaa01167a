import Colloquy.Text.Quoted

/-!
# Phrases

Small pieces of wording that messages and statements share.

* `unwrap` takes one layer of matching quotes off a text, if it has one;
* `wrapAll` puts each text between single quotes;
* `enumerate` joins texts with commas and a last conjunction.
-/

namespace Colloquy.Text

/-- Whether a character is one of the two quotation marks. -/
def isQuote (c : Char) : Bool := c == singleQuote || c == doubleQuote

/-- The text without its outer quotes, where both ends are the same quotation mark. -/
def unwrap : List Char → List Char
  | [] => []
  | q :: rest => if isQuote q && rest.getLast? == some q then rest.dropLast else q :: rest

/-- The text without its outer quotes, where both ends are the same quotation mark. -/
def unwrapped (s : String) : String := String.ofList (unwrap s.toList)

@[simp] theorem unwrap_nil : unwrap [] = [] := rfl

/-- A wrapped text gives the text itself, whatever that holds. -/
theorem unwrap_wrap {q : Char} (h : isQuote q = true) (s : List Char) :
    unwrap (q :: (s ++ [q])) = s := by
  simp [unwrap, h]

/-- Every text between single quotes. -/
def wrapAll (texts : List String) : List String := texts.map fun t => "'" ++ t ++ "'"

/-- The texts in one phrase: commas between them and a conjunction before the last. -/
def enumerate (texts : List String) (conjunction : String) : String :=
  match texts.getLast? with
  | none => ""
  | some last =>
    if texts.length = 1 then last
    else ", ".intercalate texts.dropLast ++ " " ++ conjunction ++ " " ++ last

@[simp] theorem enumerate_nil (conjunction : String) : enumerate [] conjunction = "" := rfl

@[simp] theorem enumerate_singleton (t conjunction : String) : enumerate [t] conjunction = t := rfl

end Colloquy.Text
