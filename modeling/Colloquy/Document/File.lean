import Colloquy.Document.Load

/-!
# Files

A document in a file is UTF-8 text.  A path with a null character in it names no file.

* `TextReader.readFile`: the value in a file;
* `Builder.loadFile`: all that a file holds;
* `TextReader.fileEvents`: what the journal says about loading it.
-/

namespace Colloquy

/-- What reading a file gives: its octets or why there are none. -/
abbrev Document.Content := Except FileError (List UInt8)

/-- The value in a file. -/
def TextReader.readFile (reader : TextReader) (path : String) (content : Document.Content) :
    Except LoadError Json :=
  if path.toList.contains '\x00' then .error (.broken .nullInPath)
  else
    match content with
    | .error e => .error (.refused (.unreadable path e))
    | .ok octets =>
      match Text.decode octets with
      | .error e => .error (.broken (.octets e))
      | .ok text =>
        match reader.read text with
        | .ok value => .ok value
        | .error .malformed => .error (.refused (.malformed path))
        | .error (.broken b) => .error (.broken b)

/-- All that a file holds. -/
def Builder.loadFile (builder : Builder) (reader : TextReader) (path : String)
    (content : Document.Content) (name : Option (Setting String)) : Except LoadError TreeFile :=
  match reader.readFile path content with
  | .ok document => builder.load document name
  | .error e => .error e

/-- What the journal says about loading a file. -/
def TextReader.fileEvents (reader : TextReader) (path : String) (content : Document.Content)
    (name : Option (Setting String)) : List Event :=
  match reader.readFile path content with
  | .ok document => Document.events document name
  | .error _ => []

end Colloquy
