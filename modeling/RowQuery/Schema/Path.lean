import RowQuery.Schema.Basic
import RowQuery.Text.Basic

/-!
# Paths

A path names a property by the links that lead to it, with points between the segments. Names match
in any case and with blanks around them. What a path resolves to carries the names as they were
registered, the type of the value at its end, and how to read it from a row of the entity at its
start: a link that is absent makes the value null. The table of a nested column is the last link
crossed.
-/
namespace RowQuery

/-- Whether a path may cross links that can be absent. -/
inductive AccessMode where
  /-- A value behind an absent link is null. -/
  | nullSafe
  /-- Every link on the path has to be there always. -/
  | direct
  deriving DecidableEq, Repr

/-- A property as it is seen from rows of type `R`. -/
structure ResolvedProperty (R : Type) where
  name : String
  type : ValueType
  nullable : Bool
  read : R → Option type.Carrier
  column : Sql.Column

namespace ResolvedProperty
variable {R S : Type}

/-- What the property holds in a row. -/
def get (p : ResolvedProperty R) (row : R) : Cell := (p.read row).map (Value.of p.type)

/-- The same property seen across a link. -/
def across (p : ResolvedProperty S) (link table : String) (optional : Bool)
    (follow : R → Option S) : ResolvedProperty R where
  name := link ++ "." ++ p.name
  type := p.type
  nullable := p.nullable || optional
  read row := (follow row).bind p.read
  column := { p.column with table := some (p.column.table.getD table) }

end ResolvedProperty

/-- The segments of a path, without the blanks around them. -/
def pathSegments (path : String) : List String :=
  (Text.split '.' path.toList).map fun piece => String.ofList (Text.trimChars piece)

namespace Catalog
variable (c : Catalog)

/-- Resolves the segments of a path from an entity on. The whole path is kept for messages. -/
def resolveSegments (path : String) (mode : AccessMode) :
    (e : c.Entity) → List String → Except FilterError (ResolvedProperty (c.Row e))
  | e, [] => .error (.propertyNotFound (c.name e) path path)
  | e, first :: rest =>
    match (c.schema e).find? first with
    | none => .error (.propertyNotFound (c.name e) path first)
    | some p =>
      match p.kind, rest with
      | .required _ _, next :: _ => .error (.propertyNotFound (c.name e) path next)
      | .optional _ _, next :: _ => .error (.propertyNotFound (c.name e) path next)
      | .required τ get, [] =>
        .ok ⟨p.name, τ, false, fun row => some (get row), ⟨none, p.column⟩⟩
      | .optional τ get, [] => .ok ⟨p.name, τ, true, get, ⟨none, p.column⟩⟩
      | .link _ _, [] => .error (.propertyNotFound (c.name e) path p.name)
      | .optionalLink _ _, [] => .error (.propertyNotFound (c.name e) path p.name)
      | .link target get, next :: rest => do
        let inner ← resolveSegments path mode target (next :: rest)
        return inner.across p.name p.column false fun row => some (get row)
      | .optionalLink target get, next :: rest =>
        if mode = .direct then .error (.unguardedOptionalPath path p.name)
        else do
          let inner ← resolveSegments path mode target (next :: rest)
          return inner.across p.name p.column true get

/-- The property that a path leads to from an entity. -/
def resolve (e : c.Entity) (path : String) (mode : AccessMode) :
    Except FilterError (ResolvedProperty (c.Row e)) :=
  c.resolveSegments path mode e (pathSegments path)

/-- The type of the value at the end of a path. -/
def resolveType (e : c.Entity) (path : String) : Except FilterError ValueType :=
  (c.resolve e path .nullSafe).map (·.type)

end Catalog
end RowQuery
