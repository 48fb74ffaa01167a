import Colloquy.Json.Token

/-!
# Lines of a document

In block structured text a quoted text may go on over several lines, which are folded into one, and
a key has to stand close before its colon.

* `joinReturns`: line ends as they are read from a file;
* `fold`: blanks with line ends among them;
* `Place`, `isNear`: where a key may begin;
* `layOut`: a document with its quoted texts folded, if its keys are near enough.
-/

namespace Colloquy

namespace Document

/-- The text with each carriage return, alone or before a line feed, as a line feed. -/
def joinReturns : List Char → List Char
  | [] => []
  | '\r' :: '\n' :: rest => '\n' :: joinReturns rest
  | c :: rest => (if c = '\r' then '\n' else c) :: joinReturns rest

/-- The line ends among blanks, with a line feed for the next line. -/
def breaks (blanks : List Char) : List Char :=
  (blanks.filter Json.isLineEnd).map fun c => if c.toNat = 0x85 then '\n' else c

/-- What line ends are folded into.  A single line feed becomes a space; of several the first is
dropped.  A separator of lines or paragraphs stays. -/
def foldBreaks : List Char → List Char
  | [] => []
  | first :: rest =>
    (if first ≠ '\n' then [first] else if rest.isEmpty then [' '] else []) ++ rest

/-- What blanks between other characters are folded into: themselves if they are on one line. -/
def fold (blanks : List Char) : List Char :=
  match breaks blanks with
  | [] => blanks
  | ends => foldBreaks ends

/-- A place in a document: the numbers of the lines and of the characters before it. -/
structure Place where
  line : Nat := 0
  index : Nat := 0

/-- The place behind a character. -/
def Place.after (p : Place) (c : Char) : Place :=
  ⟨if Json.isLineEnd c then p.line + 1 else p.line, p.index + 1⟩

/-- Whether a key that begins at one place may have its colon at another: on the same line and not
more than 1024 characters on. -/
def Place.isNear (key colon : Place) : Bool :=
  key.line == colon.line && colon.index ≤ key.index + 1024

/-- How a blank of a quoted text is written within JSON. -/
def quoteBlank (c : Char) : List Char :=
  if c = '\n' then [Text.backslash, 'n'] else if c = '\t' then [Text.backslash, 't'] else [c]

/-- Where in a document a character stands. -/
inductive Context
  | outside
  /-- In a quoted text, behind blanks, of which the last one comes first. -/
  | quoted (blanks : List Char)
  /-- Behind a backslash in a quoted text. -/
  | escaped

/-- Lay out a document from a place on; `out` holds what is laid out, the last character first, and
`key` is the place of the last quoted text. -/
def layOutFrom (out : List Char) (key here : Place) : Context → List Char → Option (List Char)
  | _, [] => some out.reverse
  | .outside, c :: rest =>
    if c = ':' ∧ ¬ key.isNear here then none
    else if c = Text.doubleQuote then
      layOutFrom (c :: out) here (here.after c) (.quoted []) rest
    else layOutFrom (c :: out) key (here.after c) .outside rest
  | .quoted blanks, c :: rest =>
    if c = '\t' ∨ Json.isGap c then
      layOutFrom out key (here.after c) (.quoted (c :: blanks)) rest
    else
      let filled := ((fold blanks.reverse).flatMap quoteBlank).reverse ++ out
      let context : Context :=
        if c = Text.doubleQuote then .outside
        else if c = Text.backslash then .escaped
        else .quoted []
      layOutFrom (c :: filled) key (here.after c) context rest
  | .escaped, c :: rest => layOutFrom (c :: out) key (here.after c) (.quoted []) rest

/-- A document with its quoted texts folded, if its keys are near enough to their colons. -/
def layOut (s : List Char) : Option (List Char) := layOutFrom [] {} {} .outside s

end Document

end Colloquy
