import PrefixDelegation.Decimal.Notation

/-!
# JSON values

A value of the JSON data format. Whole numbers are kept exactly and apart from numbers that have a
fraction or an exponent, because they are written back in different ways. The members of an object
keep the order in which their names first appeared; a name that appears again replaces the value
it had.

A value is *blank* when it stands for "nothing given": null, false, zero, and the empty text, list
and object.
-/

namespace PrefixDelegation

/-- A JSON value. -/
inductive Json where
  | null
  | bool (b : Bool)
  | whole (n : Int)
  | real (x : Float)
  | text (s : String)
  | list (items : List Json)
  | object (members : List (String × Json))
deriving Inhabited

namespace Json

/-- Gives a member of an object its value, at its old place if it had one. -/
def setMember (members : List (String × Json)) (name : String) (value : Json) :
    List (String × Json) :=
  if members.any (·.1 == name) then
    members.map fun m => if m.1 == name then (name, value) else m
  else members ++ [(name, value)]

/-- The value of a member, null when the object has no such member. -/
def memberOrNull (members : List (String × Json)) (name : String) : Json :=
  (members.lookup name).getD .null

/-- Whether a value stands for "nothing given". -/
def isBlank : Json → Bool
  | .null => true
  | .bool b => !b
  | .whole n => n == 0
  | .real x => x == 0.0
  | .text s => s.isEmpty
  | .list items => items.isEmpty
  | .object members => members.isEmpty

end Json

end PrefixDelegation
