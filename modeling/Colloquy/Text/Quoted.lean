import Colloquy.Text.Printable

/-!
# Quoted text

The written form of a text inside a message: the text between quotes, with every character that
could not be read back escaped.

* `quoteFor` chooses the quote: single quotes, or double quotes around a text that holds a single
  quote and no double quote;
* `escape` writes one character, `quoted` a whole text;
* `clip` cuts a written form at a greatest length.
-/

namespace Colloquy.Text

/-- The single quotation mark. -/
def singleQuote : Char := '\x27'

/-- The double quotation mark. -/
def doubleQuote : Char := '\x22'

/-- The backslash, which starts an escape. -/
def backslash : Char := '\x5c'

/-- A number in hexadecimal digits, filled up with zeros to the given width. -/
def hexadecimal (width n : Nat) : List Char :=
  (Nat.toDigits 16 n).leftpad width '0'

/-- The quote around the written form of a text. -/
def quoteFor (s : List Char) : Char :=
  if singleQuote ∈ s ∧ doubleQuote ∉ s then doubleQuote else singleQuote

/-- The numeric escape of a character: two, four or eight hexadecimal digits. -/
def numericEscape (c : Char) : List Char :=
  let n := c.toNat
  if n < 0x100 then backslash :: 'x' :: hexadecimal 2 n
  else if n < 0x10000 then backslash :: 'u' :: hexadecimal 4 n
  else backslash :: 'U' :: hexadecimal 8 n

/-- How a character is written inside the given quotes. -/
def escape (quote c : Char) : List Char :=
  if c = quote ∨ c = backslash then [backslash, c]
  else if c = '\n' then [backslash, 'n']
  else if c = '\r' then [backslash, 'r']
  else if c = '\t' then [backslash, 't']
  else if isPrintable c then [c]
  else numericEscape c

/-- The written form of a text. -/
def quotedChars (s : List Char) : List Char :=
  let quote := quoteFor s
  quote :: s.flatMap (escape quote) ++ [quote]

/-- The written form of a text. -/
def quoted (s : String) : String := String.ofList (quotedChars s.toList)

/-- A text cut at a greatest length. -/
def clip (length : Nat) (s : String) : String := String.ofList (s.toList.take length)

end Colloquy.Text
