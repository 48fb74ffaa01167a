import Colloquy.Document.Layout
import Colloquy.Document.Scalar
import Colloquy.Json.Reader

/-!
# The text of a document

A document is block structured text, of which JSON is a part.  Here it is a JSON value, in which
bare texts may stand for values, or blank text, or plain text, which is one bare text that may have
blanks in it.

* `allowed`: the characters of a document;
* `isPlain`, `plainText`: plain text and the bare text that it is folded into;
* `readText`: the value of a document.

A mark at the start of the file that tells the order of octets is passed over.
-/

namespace Colloquy

namespace Document

/-- The characters that may stand in a document. -/
def allowed : Text.CharClass :=
  [(0x9, 0xA), (0xD, 0xD), (0x20, 0x7E), (0x85, 0x85), (0xA0, 0xD7FF), (0xE000, 0xFFFD),
   (0x10000, 0x10FFFF)]

/-- The text without a mark at its start that tells the order of octets. -/
def dropOrderMark : List Char → List Char
  | c :: rest => if c.toNat = 0xFEFF then rest else c :: rest
  | [] => []

/-- Whether a line is a boundary between documents. -/
def isBoundary (line : List Char) : Bool :=
  (line.take 3 == "---".toList || line.take 3 == "...".toList) &&
    (line.drop 3).head?.all fun c => c == '\t' || Json.isGap c

/-! ### Plain text -/

/-- The characters with which a mark can start. -/
def indicators : List Char := "-?:,[]\x7b\x7d#&*!|>'\"%@`".toList

/-- Whether plain text can start like this.  Three of the marks are such only before a blank. -/
def startsPlain : List Char → Bool
  | [] => false
  | [c] => !indicators.contains c
  | c :: d :: _ => !indicators.contains c || ("-?:".toList.contains c && !Json.isGap d)

/-- Whether no colon stands before a blank or at the end and no number sign behind a blank. -/
def lacksMarks : List Char → Bool
  | [] => true
  | [c] => c != ':'
  | c :: d :: rest =>
    !(c == ':' && Json.isGap d) && !(Json.isGap c && d == '#') && lacksMarks (d :: rest)

/-- Whether a text is plain. -/
def isPlain (s : List Char) : Bool :=
  startsPlain (s.dropWhile Json.isGap) && lacksMarks s && !s.contains '\t'

/-- The text without the blanks at its two ends. -/
def trimGaps (s : List Char) : List Char :=
  ((s.dropWhile Json.isGap).reverse.dropWhile Json.isGap).reverse

/-- The bare text that a plain text is folded into. -/
def plainText (s : List Char) : List Char :=
  ((trimGaps s).splitBy fun c d => Json.isGap c == Json.isGap d).flatMap fold

/-- The value of a plain text. -/
def readPlain (s : List Char) : Except (Json.ReadError ScalarError) Json :=
  if isPlain s then
    match readScalar? (plainText s) with
    | some (.ok value) => .ok value
    | some (.error e) => .error (.word e)
    | none => .error .malformed
  else .error .malformed

/-! ### Documents -/

/-- The value of a document that is written as JSON. -/
def readJson (s : List Char) : Except (Json.ReadError ScalarError) Json :=
  match layOut s with
  | some body => Json.readWith readScalar? body
  | none => .error .malformed

/-- The value of a document. -/
def readText (text : String) : Except (Json.ReadError ScalarError) Json :=
  let s := dropOrderMark (joinReturns text.toList)
  if s.any (!allowed.contains ·) || (s.splitOnP Json.isLineEnd).any isBoundary then
    .error .malformed
  else
    match readJson s with
    | .error .malformed => readPlain s
    | other => other

end Document

end Colloquy
