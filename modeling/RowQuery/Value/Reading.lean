import RowQuery.Value
import RowQuery.Error
import RowQuery.Calendar.Pattern

/-!
# Reading values

The text of a bound, read as a value of the type of the property that it bounds. Blanks around the
text do not count, except for text itself. There are three entries, for bounds of number filters, of
date filters and of anything else; each reads the types it is made for and leaves the others to the
third, so that any filter can bound any property.
-/
namespace RowQuery
open Text

namespace ValueType

/-- A number of a numeric type. -/
def readNumber? : (τ : ValueType) → List Char → Option τ.Carrier
  | .int8, cs => (Integer.readSigned? 7 cs).map Int8.ofInt
  | .int16, cs => (Integer.readSigned? 15 cs).map Int16.ofInt
  | .int32, cs => (Integer.readSigned? 31 cs).map Int32.ofInt
  | .int64, cs => (Integer.readSigned? 63 cs).map Int64.ofInt
  | .nat8, cs => (Integer.readUnsigned? 8 cs).map UInt8.ofNat
  | .nat16, cs => (Integer.readUnsigned? 16 cs).map UInt16.ofNat
  | .nat32, cs => (Integer.readUnsigned? 32 cs).map UInt32.ofNat
  | .nat64, cs => (Integer.readUnsigned? 64 cs).map UInt64.ofNat
  | .float32, cs => FloatText.read? .single cs
  | .float64, cs => FloatText.read? .double cs
  | .decimal, cs => Decimal.read? cs
  | _, _ => none

/-- A moment or a length of time of a temporal type. -/
def readTemporal? : (τ : ValueType) → List Char → Option τ.Carrier
  | .offsetTimestamp, cs => Calendar.readOffset? cs
  | .localTimestamp, cs => Calendar.readLocal? cs
  | .date, cs => Calendar.readDate? cs
  | .time, cs => Calendar.readClock? cs
  | .duration, cs => Duration.read? cs
  | _, _ => none

/-- A value of one of the other types: a truth value in any case, a text as it stands, or an
identifier. -/
def readPlain? : (τ : ValueType) → String → Option τ.Carrier
  | .bool, raw =>
    let name := asciiLowercase (trim raw)
    if name = "true" then some true else if name = "false" then some false else none
  | .text, raw => some raw
  | .uuid, raw => Uuid.read? (trimChars raw.toList)
  | _, _ => none

end ValueType

/-- The value that was read, or the error that names the whole text and the type. -/
def accept (raw : String) (τ : ValueType) : Option τ.Carrier → Except FilterError τ.Carrier
  | some value => .ok value
  | none => .error (.invalidFilterValue raw τ)

theorem accept_success {raw : String} {τ : ValueType} {read : Option τ.Carrier}
    {value : τ.Carrier} : accept raw τ read = .ok value ↔ read = some value := by
  cases read <;> simp [accept]

/-- A value of any type. -/
def parseValue (raw : String) (τ : ValueType) : Except FilterError τ.Carrier :=
  if τ.isNumeric then accept raw τ (τ.readNumber? (trimChars raw.toList))
  else if τ.isTemporal then accept raw τ (τ.readTemporal? (trimChars raw.toList))
  else accept raw τ (τ.readPlain? raw)

/-- The bound of a number filter. -/
def parseNumber (raw : String) (τ : ValueType) : Except FilterError τ.Carrier :=
  if τ.isNumeric then accept raw τ (τ.readNumber? (trimChars raw.toList))
  else parseValue raw τ

theorem parseNumber_success {raw : String} {τ : ValueType} (numeric : τ.isNumeric = true)
    {value : τ.Carrier} :
    parseNumber raw τ = .ok value ↔ τ.readNumber? (trimChars raw.toList) = some value := by
  rw [parseNumber, if_pos numeric, accept_success]

/-- The bound of a date filter. -/
def parseTemporal (raw : String) (τ : ValueType) : Except FilterError τ.Carrier :=
  if τ.isTemporal then accept raw τ (τ.readTemporal? (trimChars raw.toList))
  else parseValue raw τ

theorem parseTemporal_success {raw : String} {τ : ValueType} (temporal : τ.isTemporal = true)
    {value : τ.Carrier} :
    parseTemporal raw τ = .ok value ↔ τ.readTemporal? (trimChars raw.toList) = some value := by
  rw [parseTemporal, if_pos temporal, accept_success]

end RowQuery
