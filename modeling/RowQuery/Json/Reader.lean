import RowQuery.Json.Basic

/-!
# Reading JSON

Exactly one value, with the white space of JSON around every part and nothing after it. Nothing
beyond the standard is accepted: no comments, no trailing commas, no control characters in texts and
no leading zeros in numbers.
-/
namespace RowQuery.Json
open Text

/-! ## Texts -/

/-- A character of a text, or half of a pair of surrogates. -/
inductive TextUnit where
  | char (c : Char)
  | half (n : Nat)
  deriving DecidableEq, Repr

/-- The unit with the given number below 2¹⁶. -/
def TextUnit.ofNat (n : Nat) : TextUnit :=
  if 0xD800 ≤ n ∧ n ≤ 0xDFFF then half n else char (Char.ofNat n)

/-- The unit that four hexadecimal digits name. -/
def hexUnit? (a b c d : Char) : Option TextUnit := do
  let a ← hexDigit? a
  let b ← hexDigit? b
  let c ← hexDigit? c
  let d ← hexDigit? d
  return .ofNat (((a * 16 + b) * 16 + c) * 16 + d)

/-- The character that a letter after a backslash stands for. -/
def simpleEscape? : Char → Option Char
  | '"' => some '"'
  | '\\' => some '\\'
  | '/' => some '/'
  | 'b' => some '\x08'
  | 'f' => some '\x0c'
  | 'n' => some '\n'
  | 'r' => some '\r'
  | 't' => some '\t'
  | _ => none

/-- The units up to the closing quote, and what follows it. -/
def takeUnits : List Char → Option (List TextUnit × List Char)
  | [] => none
  | '"' :: rest => some ([], rest)
  | '\\' :: 'u' :: a :: b :: c :: d :: rest => do
    let unit ← hexUnit? a b c d
    let (units, rest) ← takeUnits rest
    return (unit :: units, rest)
  | '\\' :: c :: rest => do
    let c ← simpleEscape? c
    let (units, rest) ← takeUnits rest
    return (.char c :: units, rest)
  | c :: rest =>
    if c.toNat < 0x20 || c = '\\' then none
    else do
      let (units, rest) ← takeUnits rest
      return (.char c :: units, rest)

/-- The characters of a list of units, if its halves come in pairs. -/
def pairUnits? : List TextUnit → Option (List Char)
  | [] => some []
  | .char c :: rest => (pairUnits? rest).map (c :: ·)
  | .half high :: .half low :: rest =>
    if high < 0xDC00 ∧ 0xDC00 ≤ low then
      (pairUnits? rest).map (Char.ofNat (0x10000 + (high - 0xD800) * 0x400 + (low - 0xDC00)) :: ·)
    else none
  | .half _ :: _ => none

/-- The text up to the closing quote, and what follows it. -/
def takeText (cs : List Char) : Option (Option String × List Char) :=
  (takeUnits cs).map fun (units, rest) => ((pairUnits? units).map String.ofList, rest)

/-! ## Numbers -/

/-- The whole part of a number: a zero alone, or digits that do not start with one. -/
def takeWhole (cs : List Char) : Option (List Nat × List Char) :=
  match takeAllDigits cs with
  | ([], _) => none
  | (0 :: _ :: _, _) => none
  | (digits, rest) => some (digits, rest)

/-- A point and digits, or nothing. -/
def takePlaces : List Char → Option (List Nat × List Char)
  | '.' :: cs =>
    match takeAllDigits cs with
    | ([], _) => none
    | (digits, rest) => some (digits, rest)
  | cs => some ([], cs)

/-- An exponent after its letter and sign. -/
def takeExponentDigits (negative : Bool) (cs : List Char) : Option (Option Int × List Char) :=
  match takeAllDigits cs with
  | ([], _) => none
  | (digits, rest) =>
    some (some (if negative then -(ofDigits digits : Int) else ofDigits digits), rest)

/-- An exponent, or nothing. -/
def takeExponent : List Char → Option (Option Int × List Char)
  | [] => some (none, [])
  | c :: cs =>
    if c = 'e' ∨ c = 'E' then
      match cs with
      | '-' :: cs => takeExponentDigits true cs
      | '+' :: cs => takeExponentDigits false cs
      | cs => takeExponentDigits false cs
    else some (none, c :: cs)

/-- A number without its sign. -/
def takeUnsigned (negative : Bool) (cs : List Char) : Option (Numeral × List Char) := do
  let (whole, cs) ← takeWhole cs
  let (places, cs) ← takePlaces cs
  let (exponent, cs) ← takeExponent cs
  return (⟨negative, whole, places, exponent⟩, cs)

def takeNumeral : List Char → Option (Numeral × List Char)
  | '-' :: cs => takeUnsigned true cs
  | cs => takeUnsigned false cs

/-! ## Values -/

def isSpace (c : Char) : Bool := c == ' ' || c == '\t' || c == '\n' || c == '\r'

def skipSpace (cs : List Char) : List Char := cs.dropWhile isSpace

/-- What follows a given character at the front. -/
def expect? (c : Char) : List Char → Option (List Char)
  | [] => none
  | c' :: cs => if c' = c then some cs else none

mutual

/-- A value at the front. The fuel bounds the number of nested and neighbouring parts. -/
def takeValue : (fuel : Nat) → List Char → Option (Json × List Char)
  | 0, _ => none
  | fuel + 1, cs =>
    match skipSpace cs with
    | 'n' :: 'u' :: 'l' :: 'l' :: rest => some (.null, rest)
    | 't' :: 'r' :: 'u' :: 'e' :: rest => some (.bool true, rest)
    | 'f' :: 'a' :: 'l' :: 's' :: 'e' :: rest => some (.bool false, rest)
    | '"' :: rest => (takeText rest).map fun (s, rest) => (.string s, rest)
    | '[' :: rest =>
      match skipSpace rest with
      | ']' :: rest => some (.array [], rest)
      | rest => (takeItems fuel rest).map fun (items, rest) => (.array items, rest)
    | '{' :: rest =>
      match skipSpace rest with
      | '}' :: rest => some (.object [], rest)
      | rest => (takeMembers fuel rest).map fun (members, rest) => (.object members, rest)
    | rest => (takeNumeral rest).map fun (n, rest) => (.number n, rest)

/-- One or more values with commas between them, up to the closing bracket. -/
def takeItems : (fuel : Nat) → List Char → Option (List Json × List Char)
  | 0, _ => none
  | fuel + 1, cs => do
    let (item, rest) ← takeValue fuel cs
    match skipSpace rest with
    | ',' :: rest =>
      let (items, rest) ← takeItems fuel rest
      return (item :: items, rest)
    | ']' :: rest => return ([item], rest)
    | _ => none

/-- One or more members with commas between them, up to the closing brace. -/
def takeMembers : (fuel : Nat) → List Char → Option (List (Option String × Json) × List Char)
  | 0, _ => none
  | fuel + 1, cs => do
    let rest ← expect? '"' (skipSpace cs)
    let (key, rest) ← takeText rest
    let rest ← expect? ':' (skipSpace rest)
    let (value, rest) ← takeValue fuel rest
    match skipSpace rest with
    | ',' :: rest =>
      let (members, rest) ← takeMembers fuel rest
      return ((key, value) :: members, rest)
    | '}' :: rest => return ([(key, value)], rest)
    | _ => none

end

/-- The value of a whole document. Every part takes at least one character for each two steps of
fuel. -/
def readChars? (cs : List Char) : Option Json :=
  match takeValue (2 * cs.length + 2) cs with
  | some (json, rest) => if (skipSpace rest).isEmpty then some json else none
  | none => none

def read? (s : String) : Option Json := readChars? s.toList

end RowQuery.Json
