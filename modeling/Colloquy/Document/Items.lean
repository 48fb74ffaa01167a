import Colloquy.Document.Error

/-!
# Items

What the values in a document hold.  A void value, such as null or an empty list, is passed over.

* `elements`: the items of a value;
* `filled?`, `itemsUnder`: the value under a key and its items;
* `allMembers?`: the members of values that all are objects.
-/

namespace Colloquy

namespace Document

/-- The items of a value: those of a list, the keys of an object, the characters of a text. -/
def elements : Json → Except Breakdown (List Json)
  | .list items => .ok items
  | .object members => .ok (members.map fun m => .text m.1)
  | .text s => .ok (s.toList.map fun c => .text (String.singleton c))
  | value => .error (.notIterable value.kindName)

/-- The value under a key, unless it is void. -/
def filled? (members : Json.Members) (key : String) : Option Json :=
  (Json.getMember? members key).filter (!·.isVoid)

/-- The items of the value under a key; a void value has none. -/
def itemsUnder (members : Json.Members) (key : String) : Except Breakdown (List Json) :=
  match filled? members key with
  | none => .ok []
  | some value => elements value

/-- The members of values that all are objects. -/
def allMembers? (values : List Json) : Option (List Json.Members) :=
  values.mapM fun
    | .object members => some members
    | _ => none

end Document

end Colloquy
