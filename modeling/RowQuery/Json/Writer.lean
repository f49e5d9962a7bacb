import RowQuery.Json.Basic

/-!
# Writing JSON

The compact form, without white space. Texts are written as they are, except for the quote, the
backslash and control characters.
-/
namespace RowQuery.Json
open Text

/-- A character inside a text. -/
def escape (c : Char) : List Char :=
  if c = '"' then ['\\', '"']
  else if c = '\\' then ['\\', '\\']
  else if c = '\x08' then ['\\', 'b']
  else if c = '\x0c' then ['\\', 'f']
  else if c = '\n' then ['\\', 'n']
  else if c = '\r' then ['\\', 'r']
  else if c = '\t' then ['\\', 't']
  else if c.toNat < 0x20 then
    ['\\', 'u', '0', '0', hexChar (c.toNat / 16), hexChar (c.toNat % 16)]
  else [c]

def writeText (s : String) : List Char := '"' :: s.toList.flatMap escape ++ ['"']

def Numeral.write (n : Numeral) : List Char :=
  (if n.negative then ['-'] else []) ++ n.whole.map digitChar ++
    (if n.places.isEmpty then [] else '.' :: n.places.map digitChar) ++
    (match n.exponent with
      | none => []
      | some e => 'e' :: signedNumeral e)

mutual

/-- The characters of a value. A text without characters, which no value made here holds, is
written as null. -/
def write : Json → List Char
  | .null => ['n', 'u', 'l', 'l']
  | .bool true => ['t', 'r', 'u', 'e']
  | .bool false => ['f', 'a', 'l', 's', 'e']
  | .number n => n.write
  | .string (some s) => writeText s
  | .string none => ['n', 'u', 'l', 'l']
  | .array items => '[' :: writeItems items ++ [']']
  | .object members => '{' :: writeMembers members ++ ['}']

def writeItems : List Json → List Char
  | [] => []
  | [item] => write item
  | item :: items => write item ++ ',' :: writeItems items

def writeMembers : List (Option String × Json) → List Char
  | [] => []
  | [(key, value)] => writeText (key.getD "") ++ ':' :: write value
  | (key, value) :: members =>
    writeText (key.getD "") ++ ':' :: write value ++ ',' :: writeMembers members

end

/-- The text of a value. -/
def render (json : Json) : String := String.ofList json.write

end RowQuery.Json
