import RowQuery.Value.Reading

/-!
# Kinds of values

The kind of a value is what is left of its type once integers and floating-point numbers have
widened. Only values of one kind compare, and of these all but what is not a number.
-/
namespace RowQuery

inductive ValueKind where
  | bool | int | nat | float | decimal | text | offsetTimestamp | localTimestamp | date | time
  | duration | uuid
  deriving DecidableEq, Repr

def Value.kind : Value → ValueKind
  | .bool _ => .bool
  | .int _ => .int
  | .nat _ => .nat
  | .float _ => .float
  | .decimal _ => .decimal
  | .text _ => .text
  | .offsetTimestamp _ => .offsetTimestamp
  | .localTimestamp _ => .localTimestamp
  | .date _ => .date
  | .time _ => .time
  | .duration _ => .duration
  | .uuid _ => .uuid

/-- The kind to which the values of a type widen. -/
def ValueType.kind : ValueType → ValueKind
  | .bool => .bool
  | .int8 | .int16 | .int32 | .int64 => .int
  | .nat8 | .nat16 | .nat32 | .nat64 => .nat
  | .float32 | .float64 => .float
  | .decimal => .decimal
  | .text => .text
  | .uuid => .uuid
  | .offsetTimestamp => .offsetTimestamp
  | .localTimestamp => .localTimestamp
  | .date => .date
  | .time => .time
  | .duration => .duration

theorem Binary.compare?_eq_none_iff {f : BinaryFormat} (x y : Binary f) :
    x.compare? y = none ↔ x.isNaN = true ∨ y.isNaN = true := by
  rw [Binary.compare?, ← Bool.or_eq_true]
  split <;> simp_all

namespace Value

/-- Whether a value is the floating-point pattern of no number. -/
def isNaN : Value → Bool
  | .float x => x.isNaN
  | _ => false

@[simp] theorem kind_of (τ : ValueType) (x : τ.Carrier) : (of τ x).kind = τ.kind := by
  cases τ <;> rfl

theorem eq_text_of_kind {v : Value} (kind : v.kind = .text) : ∃ s, v = .text s := by
  cases v with
  | text s => exact ⟨s, rfl⟩
  | _ => cases kind

theorem eq_float_of_kind {v : Value} (kind : v.kind = .float) : ∃ x, v = float x := by
  cases v with
  | float x => exact ⟨x, rfl⟩
  | _ => cases kind

theorem isNaN_of_kind_ne {v : Value} (other : v.kind ≠ .float) : v.isNaN = false := by
  cases v with
  | float x => exact absurd rfl other
  | _ => rfl

/-- The place of a value among those of its kind. Texts have their order from elsewhere. -/
def place : Value → Int
  | bool b => if b then 1 else 0
  | int n => n
  | nat n => n
  | float x => x.position
  | decimal x => x.position
  | text _ => 0
  | offsetTimestamp t => t.position
  | localTimestamp t => t.position
  | date d => d.position
  | time c => c.position
  | duration d => d.nanos
  | uuid u => u.value.val

/-- The characters by which a text is ordered; no other value has any. -/
def words : Value → String
  | text s => s
  | _ => ""

theorem compare_natCast (m n : Nat) : compare (m : Int) (n : Int) = compare m n := by
  simp only [compare, compareOfLessAndEq, Int.ofNat_lt, Int.natCast_inj]

theorem compare_toInt (a b : Bool) :
    compare (if a then (1 : Int) else 0) (if b then 1 else 0) = compare a b := by
  cases a <;> cases b <;> rfl

/-- Values of different kinds never compare. -/
theorem compare?_of_kind_ne {a b : Value} (kinds : a.kind ≠ b.kind) : a.compare? b = none := by
  unfold compare?
  split
  case h_13 => rfl
  all_goals exact absurd rfl kinds

/-- Comparing values of one kind compares the characters of texts and the places of all others, save
that floating-point numbers have an order of their own. -/
theorem compare?_of_kind_eq {a b : Value} (kinds : a.kind = b.kind) (other : a.kind ≠ .float) :
    a.compare? b = some ((compare a.place b.place).then (compare a.words b.words)) := by
  by_cases text : a.kind = .text
  · obtain ⟨s, rfl⟩ := eq_text_of_kind text
    obtain ⟨t, rfl⟩ := eq_text_of_kind (kinds.symm.trans text)
    rfl
  · cases a <;> cases b <;>
      first
      | (cases kinds; done)
      | exact absurd rfl other
      | exact absurd rfl text
      | simp only [compare?, place, words, Std.ReflOrd.compare_self, Ordering.then_eq,
          compare_natCast, compare_toInt]

/-- Values of different kinds never compare, and values of one kind only fail to when one of them is
not a number. -/
theorem compare?_eq_none_iff (a b : Value) :
    a.compare? b = none ↔ a.kind ≠ b.kind ∨ a.isNaN = true ∨ b.isNaN = true := by
  by_cases kinds : a.kind = b.kind
  · by_cases float : a.kind = .float
    · obtain ⟨x, rfl⟩ := eq_float_of_kind float
      obtain ⟨y, rfl⟩ := eq_float_of_kind (kinds.symm.trans float)
      simp [compare?, Binary.compare?_eq_none_iff, kind, isNaN]
    · have numbers : a.isNaN = false ∧ b.isNaN = false :=
        ⟨isNaN_of_kind_ne float, isNaN_of_kind_ne (kinds ▸ float)⟩
      simp [compare?_of_kind_eq kinds float, kinds, numbers]
  · simp [compare?_of_kind_ne kinds, kinds]

theorem compare?_isSome {a b : Value} (kinds : a.kind = b.kind) (left : a.isNaN = false)
    (right : b.isNaN = false) : ∃ o, a.compare? b = some o := by
  have ordered : a.compare? b ≠ none := by
    rw [Ne, compare?_eq_none_iff]
    simp [kinds, left, right]
  exact Option.ne_none_iff_exists'.1 ordered

theorem compare?_text (s t : String) : (Value.text s).compare? (.text t) = some .eq ↔ s = t := by
  have order : compareOfLessAndEq s t = .eq ↔ s = t :=
    compareOfLessAndEq_eq_eq String.le_refl String.not_le
  exact Option.some_inj.trans order

end Value
end RowQuery
