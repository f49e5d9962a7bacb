import RowQuery.Calendar.Timestamp
import RowQuery.Text.Basic
import RowQuery.Text.Numeral

/-!
# Patterns of dates and times

A pattern is a list of items, each of which takes characters from the front of the text and fills in
parts of a moment. Patterns read leniently where people write dates by hand: blanks before a number
are skipped, a number may lack its leading zeros, and a blank of the pattern stands for any run of
blanks. The items of the internet timestamp format read exactly the digits they name.
-/
namespace RowQuery.Calendar
open Text

/-- What a text says about a moment. Parts that a pattern does not name keep their least value. -/
structure Parts where
  year : Int := 0
  month : Nat := 1
  day : Nat := 1
  hour : Nat := 0
  minute : Nat := 0
  second : Nat := 0
  nano : Nat := 0
  offset : Int := 0
  deriving DecidableEq, Repr

inductive Field where
  | month | day | hour | minute | second
  deriving DecidableEq, Repr

def Parts.set (p : Parts) (n : Nat) : Field → Parts
  | .month => { p with month := n }
  | .day => { p with day := n }
  | .hour => { p with hour := n }
  | .minute => { p with minute := n }
  | .second => { p with second := n }

inductive Item where
  /-- A year of at most four digits, or with a sign and any number of digits. -/
  | year
  /-- A number of one or two digits. -/
  | number (field : Field)
  /-- A year of exactly four digits. -/
  | exactYear
  /-- A number of exactly two digits. -/
  | exactNumber (field : Field)
  /-- One of the given characters. -/
  | oneOf (cs : List Char)
  /-- Any run of blanks, also none. -/
  | blanks
  /-- A point and digits, of which the first nine count, or nothing. -/
  | fraction
  /-- An offset whose hours and minutes may be parted by colons and blanks, or by nothing. -/
  | offset
  /-- An offset with one colon, or the letter of universal time. -/
  | exactOffset
  deriving DecidableEq, Repr

/-- A number of `least` to `most` digits. -/
def takeNumber? (least most : Nat) (cs : List Char) : Option (Nat × List Char) :=
  let (ds, rest) := takeDigits most cs
  if ds.length < least then none else some (ofDigits ds, rest)

/-- A year without leading blanks. -/
def takeYear? : List Char → Option (Int × List Char)
  | '-' :: cs => (takeNumber? 1 cs.length cs).map fun (n, rest) => (-(n : Int), rest)
  | '+' :: cs => (takeNumber? 1 cs.length cs).map fun (n, rest) => ((n : Int), rest)
  | cs => (takeNumber? 1 4 cs).map fun (n, rest) => ((n : Int), rest)

/-- The nanoseconds that the digits after a point denote. -/
def takeFraction? (cs : List Char) : Option (Nat × List Char) :=
  match takeAllDigits cs with
  | ([], _) => none
  | (ds, rest) => some (ofPlaces 9 ds, rest)

/-- The sign of an offset: a plus, a hyphen or the minus of typesetting. -/
def takeSign? : List Char → Option (Int × List Char)
  | '+' :: cs => some (1, cs)
  | '-' :: cs => some (-1, cs)
  | '−' :: cs => some (-1, cs)
  | _ => none

/-- An offset in minutes: a sign, two digits, a separator, two digits of which the first is below
six. The separator is what `separator?` takes. -/
def takeOffset? (separator? : List Char → Option (List Char)) (cs : List Char) :
    Option (Int × List Char) := do
  let (sign, cs) ← takeSign? cs
  let (hours, cs) ← takeNumber? 2 2 cs
  let cs ← separator? cs
  let (minutes, cs) ← takeNumber? 2 2 cs
  if minutes < 60 then some (sign * (hours * 60 + minutes : Nat), cs) else none

def takeColon? : List Char → Option (List Char)
  | ':' :: cs => some cs
  | _ => none

def skipColons? (cs : List Char) : Option (List Char) :=
  some (cs.dropWhile fun c => c == ':' || isBlank c)

/-- What an item makes of the front of a text. -/
def Item.take? (p : Parts) (cs : List Char) : Item → Option (Parts × List Char)
  | .year => (takeYear? (dropBlanks cs)).map fun (n, cs) => ({ p with year := n }, cs)
  | .number field => (takeNumber? 1 2 (dropBlanks cs)).map fun (n, cs) => (p.set n field, cs)
  | .exactYear => (takeNumber? 4 4 cs).map fun (n, cs) => ({ p with year := n }, cs)
  | .exactNumber field => (takeNumber? 2 2 cs).map fun (n, cs) => (p.set n field, cs)
  | .oneOf options =>
    match cs with
    | c :: cs => if options.contains c then some (p, cs) else none
    | [] => none
  | .blanks => some (p, dropBlanks cs)
  | .fraction =>
    match cs with
    | '.' :: cs => (takeFraction? cs).map fun (n, cs) => ({ p with nano := n }, cs)
    | cs => some (p, cs)
  | .offset =>
    (takeOffset? skipColons? (dropBlanks cs)).map fun (n, cs) => ({ p with offset := n }, cs)
  | .exactOffset =>
    match cs with
    | 'Z' :: cs => some (p, cs)
    | 'z' :: cs => some (p, cs)
    | cs => (takeOffset? takeColon? cs).map fun (n, cs) => ({ p with offset := n }, cs)

/-- The parts that a whole text gives to a pattern. -/
def readParts? (p : Parts) : List Item → List Char → Option Parts
  | [], [] => some p
  | [], _ :: _ => none
  | item :: items, cs => (item.take? p cs).bind fun (p, cs) => readParts? p items cs

namespace Parts

def date? (p : Parts) : Option Date := Date.make? p.year p.month p.day

def clock? (p : Parts) : Option Clock := Clock.make? p.hour p.minute p.second p.nano

def local? (p : Parts) : Option LocalTimestamp := do
  let date ← p.date?
  let clock ← p.clock?
  return ⟨date, clock⟩

def offset? (p : Parts) : Option OffsetTimestamp := do
  let wall ← p.local?
  let offset ← Offset.make? p.offset
  OffsetTimestamp.ofWall? wall offset

end Parts

/-! ## The patterns -/

def datePattern : List Item :=
  [.year, .oneOf ['-'], .number .month, .oneOf ['-'], .number .day]

def minutePattern : List Item := [.number .hour, .oneOf [':'], .number .minute]

def secondPattern : List Item := minutePattern ++ [.oneOf [':'], .number .second, .fraction]

/-- Times of day, with seconds or without. -/
def clockPatterns : List (List Item) := [secondPattern, minutePattern]

/-- Date and time, parted by the letter T or by blanks. -/
def localPatterns : List (List Item) :=
  [datePattern ++ .oneOf ['T'] :: secondPattern,
   datePattern ++ .blanks :: secondPattern,
   datePattern ++ .oneOf ['T'] :: minutePattern,
   datePattern ++ .blanks :: minutePattern]

/-- Date, time and offset. -/
def offsetPatterns : List (List Item) :=
  [datePattern ++ .blanks :: secondPattern ++ [.offset],
   datePattern ++ .oneOf ['T'] :: secondPattern ++ [.offset]]

/-- The internet timestamp format. -/
def internetPattern : List Item :=
  [.exactYear, .oneOf ['-'], .exactNumber .month, .oneOf ['-'], .exactNumber .day,
   .oneOf ['T', 't', ' '], .exactNumber .hour, .oneOf [':'], .exactNumber .minute, .oneOf [':'],
   .exactNumber .second, .fraction, .exactOffset]

/-- The first result that one of the patterns gives for the whole text. -/
def readFirst? {α : Type} (make? : Parts → Option α) (patterns : List (List Item))
    (cs : List Char) : Option α :=
  patterns.findSome? fun items => (readParts? {} items cs).bind make?

/-- The moment of an internet timestamp, also where only its wall clock is wanted: the offset has to
be one in any case. -/
def readInternet? (cs : List Char) : Option OffsetTimestamp :=
  readFirst? Parts.offset? [internetPattern] cs

/-- The wall clock of an internet timestamp. -/
def readInternetWall? (cs : List Char) : Option LocalTimestamp :=
  readFirst? (fun p => p.offset?.bind fun _ => p.local?) [internetPattern] cs

/-- A local timestamp: date and time, a date alone for its midnight, or else the wall clock of an
internet timestamp. -/
def readLocal? (cs : List Char) : Option LocalTimestamp :=
  (readFirst? Parts.local? localPatterns cs).or <|
    (readFirst? Parts.local? [datePattern] cs).or (readInternetWall? cs)

/-- A date: alone, or the one of a local timestamp. -/
def readDate? (cs : List Char) : Option Date :=
  (readFirst? Parts.date? [datePattern] cs).or ((readLocal? cs).map (·.date))

/-- A time of day. -/
def readClock? (cs : List Char) : Option Clock := readFirst? Parts.clock? clockPatterns cs

/-- An offset timestamp; a local timestamp is taken to be in universal time. -/
def readOffset? (cs : List Char) : Option OffsetTimestamp :=
  (readInternet? cs).or <|
    (readFirst? Parts.offset? offsetPatterns cs).or <|
      (readLocal? cs).map fun t => ⟨t, .utc⟩

end RowQuery.Calendar
