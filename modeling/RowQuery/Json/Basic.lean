import RowQuery.Text.Numeral

/-!
# JSON

The syntax of JSON documents. Numbers keep the digits in which they are written, because what they
denote depends on where they stand; objects keep repeated members, because where a document has a
fixed set of fields a repeated one is an error.

An escape can name half of a surrogate pair. A text with an unpaired half has no characters, but it
may stand where it is not looked at.
-/
namespace RowQuery.Json

/-- A number as written. The digits of the whole part have no leading zero. -/
structure Numeral where
  negative : Bool
  whole : List Nat
  places : List Nat
  exponent : Option Int
  deriving DecidableEq, Repr

/-- Whether the numeral has neither a point nor an exponent. -/
def Numeral.isInteger (n : Numeral) : Bool := n.places.isEmpty && n.exponent.isNone

/-- The numeral of an integer. -/
def Numeral.ofInt (n : Int) : Numeral := ⟨n < 0, Text.digits n.natAbs, [], none⟩

end RowQuery.Json
namespace RowQuery

/-- A JSON value. A text is `none` where an escape names half of a pair of surrogates. -/
inductive Json where
  | null
  | bool (b : Bool)
  | number (n : Json.Numeral)
  | string (s : Option String)
  | array (items : List Json)
  | object (members : List (Option String × Json))

end RowQuery
namespace RowQuery.Json

/-- The value of a text. -/
def ofString (s : String) : Json := .string (some s)

def ofNat (n : Nat) : Json := .number (.ofInt n)

def ofInt (n : Int) : Json := .number (.ofInt n)

/-- An object with the given members. -/
def ofMembers (members : List (String × Json)) : Json :=
  .object (members.map fun (key, value) => (some key, value))

/-- The members of an object, if their keys are texts. -/
def members? : Json → Option (List (String × Json))
  | .object members => members.mapM fun (key, value) => key.map (·, value)
  | _ => none

/-- The member of the given name; of several the last. -/
def member? (json : Json) (name : String) : Option Json :=
  match json with
  | .object members => (members.findRev? fun entry => entry.1 == some name).map (·.2)
  | _ => none

/-- The text of a string. -/
def text? : Json → Option String
  | .string s => s
  | _ => none

end RowQuery.Json
