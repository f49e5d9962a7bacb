import RowQuery.Text.Numeral
import RowQuery.Text.Case

/-!
# Identifiers of 128 bits

Thirty-two hexadecimal digits, written in small letters in groups of eight, four, four, four and
twelve. They are read in groups or without the hyphens; the grouped form may stand in braces or
after the name of its scheme, which is spelled in letters of any case.
-/
namespace RowQuery
open Text

structure Uuid where
  value : Fin (twoPow 128)
  deriving DecidableEq, Repr

namespace Uuid

instance : Inhabited Uuid := ⟨⟨0, by decide⟩⟩

/-- The hexadecimal number with the given digits. -/
def ofHex (ds : List Nat) : Nat := ds.foldl (fun n d => 16 * n + d) 0

/-- The last `count` hexadecimal digits of a number. -/
def hexDigits : (count : Nat) → Nat → List Nat
  | 0, _ => []
  | count + 1, n => hexDigits count (n / 16) ++ [n % 16]

/-- Thirty-two digits without anything between them. -/
def readPlain? (cs : List Char) : Option Uuid :=
  if cs.length = 32 then
    (cs.mapM hexDigit?).bind fun ds =>
      if h : ofHex ds < twoPow 128 then some ⟨⟨ofHex ds, h⟩⟩ else none
  else none

/-- The characters of the groups, if a hyphen stands between each two of them and after none. -/
def ungroup? : List Nat → List Char → Option (List Char)
  | [], _ => none
  | [count], cs => if cs.length = count then some cs else none
  | count :: counts, cs =>
    match cs.drop count with
    | '-' :: rest => (ungroup? counts rest).map (cs.take count ++ ·)
    | _ => none

def groups : List Nat := [8, 4, 4, 4, 12]

/-- Five groups with hyphens between them. -/
def readGrouped? (cs : List Char) : Option Uuid := (ungroup? groups cs).bind readPlain?

/-- The scheme that may stand before the groups, in small letters. -/
def scheme : List Char := ['u', 'r', 'n', ':', 'u', 'u', 'i', 'd', ':']

/-- What follows the scheme, if the characters start with it in any case. -/
def afterScheme? (cs : List Char) : Option (List Char) :=
  if (cs.take scheme.length).map asciiLower = scheme then some (cs.drop scheme.length) else none

/-- The identifier that the characters denote. -/
def read? (cs : List Char) : Option Uuid :=
  (readPlain? cs).or <| (readGrouped? cs).or <|
    match cs with
    | '{' :: rest => if rest.getLast? = some '}' then readGrouped? rest.dropLast else none
    | cs => (afterScheme? cs).bind readGrouped?

/-- Hyphens between groups of the given sizes. -/
def group : List Nat → List Char → List Char
  | [], _ => []
  | [_], cs => cs
  | count :: counts, cs => cs.take count ++ '-' :: group counts (cs.drop count)

/-- The grouped form. -/
def write (u : Uuid) : List Char := group groups ((hexDigits 32 u.value.val).map hexChar)

end Uuid
end RowQuery
