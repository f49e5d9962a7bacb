import RowQuery.Value
import RowQuery.Error
import RowQuery.Sql.Clause

/-!
# Schemas

What an entity shows to filters and sorters: its properties, each with a name and a column. A
property holds values of one type, always or only sometimes, or leads on to another entity. A
catalog is a family of entities whose schemas link to each other, also in circles; a path through it
is resolved by `RowQuery.Schema.Path`.

Within a schema names are unique up to case. The builder registers properties one by one and refuses
the first one whose name is taken.
-/
namespace RowQuery

/-- How a row of type `R` yields what a property holds. Links lead to rows of other entities. -/
inductive PropertyKind {Entity : Type} (Row : Entity → Type) (R : Type) where
  | required (τ : ValueType) (get : R → τ.Carrier)
  | optional (τ : ValueType) (get : R → Option τ.Carrier)
  | link (target : Entity) (get : R → Row target)
  | optionalLink (target : Entity) (get : R → Option (Row target))

/-- A named property. The column of a link is the name under which its table is joined. -/
structure Property {Entity : Type} (Row : Entity → Type) (R : Type) where
  name : String
  column : String
  kind : PropertyKind Row R

/-- Names that agree in this are the same name. -/
def nameKey (name : String) : String := Text.lowercase name

variable {Entity : Type} {Row : Entity → Type} {R : Type}

namespace Property

def key (p : Property Row R) : String := nameKey p.name

end Property

/-- Properties with unique names. -/
structure Schema {Entity : Type} (Row : Entity → Type) (R : Type) where
  properties : List (Property Row R)
  nodup : (properties.map Property.key).Nodup

namespace Schema

def empty : Schema Row R := ⟨[], List.nodup_nil⟩

instance : Inhabited (Schema Row R) := ⟨empty⟩

/-- The names of the properties as they were registered. -/
def names (s : Schema Row R) : List String := s.properties.map (·.name)

/-- The property of the given name, in any case. -/
def find? (s : Schema Row R) (name : String) : Option (Property Row R) :=
  s.properties.find? fun p => p.key == nameKey name

end Schema

/-- Entities with their rows and schemas. -/
structure Catalog where
  Entity : Type
  Row : Entity → Type
  name : Entity → String
  schema : (e : Entity) → Schema Row (Row e)

/-! ## Building -/

/-- The properties registered so far, in order. -/
structure SchemaBuilder {Entity : Type} (Row : Entity → Type) (R : Type) where
  properties : List (Property Row R) := []

namespace SchemaBuilder

def register (b : SchemaBuilder Row R) (name : String) (kind : PropertyKind Row R) :
    SchemaBuilder Row R :=
  ⟨b.properties ++ [⟨name, name, kind⟩]⟩

/-- Registers a property that always has a value. -/
def required (b : SchemaBuilder Row R) (name : String) (τ : ValueType) (get : R → τ.Carrier) :
    SchemaBuilder Row R :=
  b.register name (.required τ get)

/-- Registers a property that may be null. -/
def optional (b : SchemaBuilder Row R) (name : String) (τ : ValueType)
    (get : R → Option τ.Carrier) : SchemaBuilder Row R :=
  b.register name (.optional τ get)

/-- Registers a link to a row that is always there. -/
def link (b : SchemaBuilder Row R) (name : String) (target : Entity) (get : R → Row target) :
    SchemaBuilder Row R :=
  b.register name (.link target get)

/-- Registers a link to a row that may be absent. -/
def optionalLink (b : SchemaBuilder Row R) (name : String) (target : Entity)
    (get : R → Option (Row target)) : SchemaBuilder Row R :=
  b.register name (.optionalLink target get)

/-- Gives the property registered last a column of its own. Before the first property it has no
effect. -/
def column (b : SchemaBuilder Row R) (column : String) : SchemaBuilder Row R :=
  match b.properties.getLast? with
  | some p => ⟨b.properties.dropLast ++ [{ p with column := column }]⟩
  | none => b

end SchemaBuilder

/-- The first property whose name one before it, or one of `taken`, already has. -/
def firstRepeated? (taken : List String) : List (Property Row R) → Option (Property Row R)
  | [] => none
  | p :: ps => if taken.contains p.key then some p else firstRepeated? (p.key :: taken) ps

theorem nodup_of_firstRepeated?_eq_none {taken : List String} {ps : List (Property Row R)}
    (h : firstRepeated? taken ps = none) :
    (ps.map Property.key).Nodup ∧ ∀ p ∈ ps, p.key ∉ taken := by
  induction ps generalizing taken with
  | nil => simp
  | cons p ps ih =>
    unfold firstRepeated? at h
    split at h
    · cases h
    · rename_i fresh
      obtain ⟨nodup, apart⟩ := ih h
      simp only [List.contains_eq_mem, decide_eq_true_eq] at fresh
      refine ⟨?_, ?_⟩
      · rw [List.map_cons, List.nodup_cons]
        refine ⟨?_, nodup⟩
        intro hmem
        obtain ⟨q, hq, hkey⟩ := List.mem_map.1 hmem
        exact apart q hq (by simp [hkey])
      · intro q hq
        rcases List.mem_cons.1 hq with rfl | hq
        · exact fresh
        · exact fun hmem => apart q hq (List.mem_cons_of_mem _ hmem)

/-- The schema of the registered properties, if their names are unique. -/
def SchemaBuilder.build (b : SchemaBuilder Row R) (entity : String) :
    Except SchemaError (Schema Row R) :=
  match h : firstRepeated? [] b.properties with
  | some p => .error (.duplicateProperty entity p.name)
  | none => .ok ⟨b.properties, (nodup_of_firstRepeated?_eq_none h).1⟩

end RowQuery
