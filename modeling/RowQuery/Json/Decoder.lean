import RowQuery.Json.Number

/-!
# Decoding JSON

Reading typed data from JSON values. A record with known fields is read from an object, where a
field may have several names but may not occur twice and unknown members are passed over unread; or
from an array of its fields in order. A field that is optional may be absent or null.
-/
namespace RowQuery.Json

/-- The value of a field that may be known under several names: none in the answer if it is absent,
no answer if it occurs twice. -/
def field? (names : List String) (members : List (String × Json)) : Option (Option Json) :=
  match members.filter fun entry => names.contains entry.1 with
  | [] => some none
  | [entry] => some (some entry.2)
  | _ => none

/-- The values of the fields of a record, in order: from an object by name, or from an array with at
least `least` items by place. -/
def fields? (least : Nat) (fields : List (List String)) : Json → Option (List (Option Json))
  | .array items =>
    if least ≤ items.length && items.length ≤ fields.length then
      some (items.map some ++ List.replicate (fields.length - items.length) none)
    else none
  | json => json.members?.bind fun members => fields.mapM fun names => field? names members

/-- What a field holds, if it is neither absent nor null. -/
def optional? {α : Type} (decode? : Json → Option α) : Option Json → Option (Option α)
  | none => some none
  | some .null => some none
  | some json => (decode? json).map some

/-- What a field holds, or the default if it is absent. Null is not absent. -/
def defaulted? {α : Type} (decode? : Json → Option α) (default : α) : Option Json → Option α
  | none => some default
  | some json => decode? json

/-- The items of an array. -/
def list? {α : Type} (decode? : Json → Option α) : Json → Option (List α)
  | .array items => items.mapM decode?
  | _ => none

/-- A text, or null. -/
def nullableText? (json : Json) : Option (Option String) := optional? text? (some json)

/-- A bound of a filter as a text: a text, a finite number in its own notation, or a truth value. -/
def scalarText? : Json → Option String
  | .string s => s
  | .number n => n.number?.map fun x => String.ofList x.write
  | .bool b => some (if b then "true" else "false")
  | _ => none

/-- A number of 64 bits, written without a point, an exponent or a sign. -/
def nat64? : Json → Option UInt64
  | .number n =>
    match n.isInteger, n.number? with
    | true, some (.nat k) => some (UInt64.ofNat k)
    | _, _ => none
  | _ => none

end RowQuery.Json
