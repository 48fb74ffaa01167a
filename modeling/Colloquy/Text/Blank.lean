import Colloquy.Text.CharClass

/-!
# Blanks

White space is every character of Unicode's bidirectional classes for space and separators: the
ASCII controls from tab to carriage return, the four information separators, the space, and the
spaces and line separators beyond ASCII.

* `isBlank`, the class;
* `trim` drops the blanks at both ends of a text and `strip` does so for a `String`;
* `words` are the longest runs without blanks, `lines` the pieces between line feeds.

Line feeds alone end a line; every other line separator is a blank within it.
-/

namespace Colloquy.Text

/-- The white space characters. -/
def blanks : CharClass :=
  [(0x9, 0xD), (0x1C, 0x20), (0x85, 0x85), (0xA0, 0xA0), (0x1680, 0x1680), (0x2000, 0x200A),
   (0x2028, 0x2029), (0x202F, 0x202F), (0x205F, 0x205F), (0x3000, 0x3000)]

/-- Whether a character is white space. -/
def isBlank (c : Char) : Bool := blanks.contains c

@[simp] theorem isBlank_space : isBlank ' ' = true := by decide
@[simp] theorem isBlank_lineFeed : isBlank '\n' = true := by decide
@[simp] theorem isBlank_carriageReturn : isBlank '\r' = true := by decide
@[simp] theorem isBlank_tab : isBlank '\t' = true := by decide

/-- The text without the blanks at its end. -/
def trimEnd (s : List Char) : List Char := (s.reverse.dropWhile isBlank).reverse

/-- The text without the blanks at its two ends. -/
def trim (s : List Char) : List Char := trimEnd (s.dropWhile isBlank)

/-- The text without the blanks at its two ends. -/
def strip (s : String) : String := String.ofList (trim s.toList)

@[simp] theorem toList_strip (s : String) : (strip s).toList = trim s.toList := by
  simp [strip]

@[simp] theorem trim_nil : trim [] = [] := rfl

/-- Whether a text is made of blanks only. -/
def isAllBlank (s : String) : Bool := s.toList.all isBlank

/-- The longest runs of characters that are no blanks. -/
def words (s : List Char) : List (List Char) := (s.splitOnP isBlank).filter (· ≠ [])

/-- The pieces of a text between its line feeds; there is one more than there are line feeds. -/
def lines (s : List Char) : List (List Char) := s.splitOn '\n'

theorem ne_nil_of_mem_words {s w : List Char} (h : w ∈ words s) : w ≠ [] := by
  simpa using (List.mem_filter.mp h).2

end Colloquy.Text
