import RowQuery.Number.Binary
import RowQuery.Number.Decimal
import RowQuery.Calendar.Timestamp
import RowQuery.Calendar.Duration
import RowQuery.Uuid

/-!
# Types of values

The types a property can have, and for each the Lean type in which rows hold its values. Integers
have the width that their property declares; what they widen to when they are compared is a matter
of `RowQuery.Value`.
-/
namespace RowQuery

inductive ValueType where
  | bool
  | int8 | int16 | int32 | int64
  | nat8 | nat16 | nat32 | nat64
  | float32 | float64
  | decimal
  | text
  | uuid
  | offsetTimestamp
  | localTimestamp
  | date
  | time
  | duration
  deriving DecidableEq, Repr

namespace ValueType

/-- All types, in the order in which they are listed to users. -/
def all : List ValueType :=
  [bool, int8, int16, int32, int64, nat8, nat16, nat32, nat64, float32, float64, decimal, text,
   uuid, offsetTimestamp, localTimestamp, date, time, duration]

/-- The name of a type in messages. -/
def name : ValueType → String
  | bool => "bool"
  | int8 => "i8"
  | int16 => "i16"
  | int32 => "i32"
  | int64 => "i64"
  | nat8 => "u8"
  | nat16 => "u16"
  | nat32 => "u32"
  | nat64 => "u64"
  | float32 => "f32"
  | float64 => "f64"
  | decimal => "decimal"
  | text => "text"
  | uuid => "uuid"
  | offsetTimestamp => "offset timestamp"
  | localTimestamp => "local timestamp"
  | date => "date"
  | time => "time"
  | duration => "duration"

def isNumeric : ValueType → Bool
  | int8 | int16 | int32 | int64 | nat8 | nat16 | nat32 | nat64 | float32 | float64 | decimal =>
    true
  | _ => false

def isTemporal : ValueType → Bool
  | offsetTimestamp | localTimestamp | date | time | duration => true
  | _ => false

/-- The values that a property of the type holds. -/
abbrev Carrier : ValueType → Type
  | bool => Bool
  | int8 => Int8
  | int16 => Int16
  | int32 => Int32
  | int64 => Int64
  | nat8 => UInt8
  | nat16 => UInt16
  | nat32 => UInt32
  | nat64 => UInt64
  | float32 => Binary32
  | float64 => Binary64
  | decimal => Decimal
  | text => String
  | uuid => Uuid
  | offsetTimestamp => OffsetTimestamp
  | localTimestamp => LocalTimestamp
  | date => Date
  | time => Clock
  | duration => Duration

/-- The value of a type that stands for a missing one. -/
instance : (τ : ValueType) → Inhabited τ.Carrier
  | bool => ⟨false⟩
  | int8 => ⟨(0 : Int8)⟩
  | int16 => ⟨(0 : Int16)⟩
  | int32 => ⟨(0 : Int32)⟩
  | int64 => ⟨(0 : Int64)⟩
  | nat8 => ⟨(0 : UInt8)⟩
  | nat16 => ⟨(0 : UInt16)⟩
  | nat32 => ⟨(0 : UInt32)⟩
  | nat64 => ⟨(0 : UInt64)⟩
  | float32 => ⟨(default : Binary32)⟩
  | float64 => ⟨(default : Binary64)⟩
  | decimal => ⟨(default : Decimal)⟩
  | text => ⟨""⟩
  | uuid => ⟨(default : Uuid)⟩
  | offsetTimestamp => ⟨(default : OffsetTimestamp)⟩
  | localTimestamp => ⟨(default : LocalTimestamp)⟩
  | date => ⟨(default : Date)⟩
  | time => ⟨(default : Clock)⟩
  | duration => ⟨(default : Duration)⟩

end ValueType
end RowQuery
