import Colloquy.Number.Basic
import Colloquy.Text.Quoted

/-!
# JSON values

A document is a JSON value.  The members of an object keep their order, and integers of any size are
told apart from real numbers.

* `Json`, `Json.get?`;
* `Json.isVoid`: null, false, zero and everything empty;
* `Json.kindName`: what a value is called in a message;
* `Json.written` and `Json.display`: how a value is shown in a message;
* `Json.putMember`, `Json.renameMembers`: objects with one value for each key.
-/

namespace Colloquy

/-- A JSON value. -/
inductive Json
  | null
  | flag (b : Bool)
  | integer (n : Int)
  | real (x : Double)
  | text (s : String)
  | list (items : List Json)
  | object (members : List (String × Json))

namespace Json

/-- The members of an object: keys with their values. -/
abbrev Members := List (String × Json)

/-- The value under a key. -/
def getMember? (members : Members) (key : String) : Option Json :=
  (members.find? (·.1 == key)).map (·.2)

/-- The value under a key of an object. -/
def get? (key : String) : Json → Option Json
  | .object members => getMember? members key
  | _ => none

/-- Put a value under a key: in place of the value there, or behind the other members. -/
def putMember (key : String) (value : Json) : Members → Members
  | [] => [(key, value)]
  | (k, v) :: rest => if k = key then (k, value) :: rest else (k, v) :: putMember key value rest

/-- Give keys other names.  Of two members that come to have one key the last gives the value. -/
def renameMembers (rename : String → String) (members : Members) : Members :=
  members.foldl (fun renamed member => putMember (rename member.1) member.2 renamed) []

/-- Whether a value is null, false, zero or empty. -/
def isVoid : Json → Bool
  | .null => true
  | .flag b => !b
  | .integer n => n == 0
  | .real x => x.isZero
  | .text s => s.isEmpty
  | .list items => items.isEmpty
  | .object members => members.isEmpty

/-- What a value is called in a message. -/
def kindName : Json → String
  | .null => "NoneType"
  | .flag _ => "bool"
  | .integer _ => "int"
  | .real _ => "float"
  | .text _ => "str"
  | .list _ => "list"
  | .object _ => "dict"

mutual

/-- A value as it is shown inside a message, unless an integer in it has too many digits. -/
def written : Json → Except NumberError String
  | .null => .ok "None"
  | .flag b => .ok (if b then "True" else "False")
  | .integer n => integerText n
  | .real x => .ok x.text
  | .text s => .ok (Text.quoted s)
  | .list items =>
    (writtenItems items).map fun texts => "[" ++ ", ".intercalate texts ++ "]"
  | .object members =>
    (writtenMembers members).map fun texts => "\x7b" ++ ", ".intercalate texts ++ "\x7d"

/-- The items of a list as they are shown inside a message. -/
def writtenItems : List Json → Except NumberError (List String)
  | [] => .ok []
  | item :: rest => do
    let text ← written item
    let texts ← writtenItems rest
    return text :: texts

/-- The members of an object as they are shown inside a message. -/
def writtenMembers : List (String × Json) → Except NumberError (List String)
  | [] => .ok []
  | (key, value) :: rest => do
    let text ← written value
    let texts ← writtenMembers rest
    return (Text.quoted key ++ ": " ++ text) :: texts

end

/-- A value as a message: a text stands for itself, anything else is written. -/
def display : Json → Except NumberError String
  | .text s => .ok s
  | value => value.written

@[simp] theorem display_text (s : String) : display (.text s) = .ok s := rfl

@[simp] theorem get?_object (key : String) (members : Members) :
    get? key (.object members) = getMember? members key := rfl

@[simp] theorem getMember?_nil (key : String) : getMember? [] key = none := rfl

theorem getMember?_cons (k : String) (v : Json) (members : Members) (key : String) :
    getMember? ((k, v) :: members) key = if k = key then some v else getMember? members key := by
  by_cases h : k = key <;> simp [getMember?, h]

/-- A look-up after a write: the written key gives the new value, any other key the old one. -/
theorem getMember?_putMember (key k : String) (v : Json) (members : Members) :
    getMember? (putMember k v members) key =
      if k = key then some v else getMember? members key := by
  induction members with
  | nil => simp [putMember, getMember?_cons]
  | cons member rest ih =>
    obtain ⟨k', v'⟩ := member
    by_cases h : k' = k
    · subst h
      simp only [putMember, if_true, getMember?_cons]
      split <;> rfl
    · simp only [putMember, h, if_false, getMember?_cons, ih]
      by_cases hk : k' = key
      · subst hk
        simp [Ne.symm h]
      · simp [hk]

end Json

end Colloquy
