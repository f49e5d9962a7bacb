import RowQuery.Proofs.Filter.Regard
import RowQuery.Proofs.Schema.Spelling
import RowQuery.Proofs.Settings
import RowQuery.Proofs.Text.Points

/-!
# Overrides for single properties

A flag for one property is set under a path and asked for under the property's name. Paths are read
segment by segment, without the blanks around them, but settings keep the small form of the path as
a whole. So not every path that leads to a property names it in settings: a flag is lost with a path
that has a blank next to a point or at an end, and with one in which a point changes the form of a
sigma, unless the name has the same sigma there.
-/
namespace RowQuery
open Text (Unblanked sigmaChanges lowerWithin)

/-! ## Paths and names as whole texts -/

theorem unblanked_intercalate {names : List String} (some_name : names ≠ [])
    (valid : ∀ name ∈ names, Segment name) : Unblanked (".".intercalate names).toList := by
  intro piece member
  rw [splitOn_intercalate some_name valid] at member
  obtain ⟨name, listed, rfl⟩ := List.mem_map.1 member
  exact (valid name listed).trimmed

/-- Without blanks around its segments, a path is made small segment by segment. -/
theorem lowerWithin_of_unblanked {path : String} (unblanked : Unblanked path.toList) :
    lowerWithin [] path.toList =
      ['.'].intercalate (((pathSegments path).map nameKey).map String.toList) := by
  have kept : ∀ piece ∈ path.toList.splitOn '.',
      Text.lowerChars piece = (nameKey (String.ofList (Text.trimChars piece))).toList := by
    intro piece member
    rw [(unblanked piece member).trimChars_eq, nameKey, Text.toList_lowercase, String.toList_ofList]
  rw [Text.lowerWithin_eq, List.map_congr_left kept, Catalog.pathSegments_eq, List.map_map,
    List.map_map]
  rfl

theorem lowercase_eq_lowercase_iff (s t : String) :
    Text.lowercase s = Text.lowercase t ↔
      Text.lowerChars s.toList = Text.lowerChars t.toList := by
  rw [← String.toList_inj, Text.toList_lowercase, Text.toList_lowercase]

section
variable {path name : String}
  (same : (pathSegments path).map nameKey = (pathSegments name).map nameKey)
  (plain : Unblanked name.toList)
include same plain

/-- Two texts with the same segments, of which one has no blanks around them, have one small form
exactly if the other has none either and points change the same sigmas in both. -/
theorem lowercase_path_eq_iff :
    Text.lowercase path = Text.lowercase name ↔
      Unblanked path.toList ∧ sigmaChanges [] path.toList = sigmaChanges [] name.toList := by
  have pieces : Unblanked path.toList →
      lowerWithin [] path.toList = lowerWithin [] name.toList := by
    intro unblanked
    rw [lowerWithin_of_unblanked unblanked, lowerWithin_of_unblanked plain, same]
  rw [lowercase_eq_lowercase_iff]
  constructor
  · intro whole
    have unblanked : Unblanked path.toList := by
      rwa [← Text.unblanked_lowerChars, whole, Text.unblanked_lowerChars]
    exact ⟨unblanked, (Text.lowerChars_eq_iff (pieces unblanked)).1 whole⟩
  · rintro ⟨unblanked, changes⟩
    exact (Text.lowerChars_eq_iff (pieces unblanked)).2 changes

/-- Where points change no sigma, only blanks matter. -/
theorem lowercase_path_eq_iff_of_steady
    (steadyPath : Text.lowerChars path.toList = lowerWithin [] path.toList)
    (steadyName : Text.lowerChars name.toList = lowerWithin [] name.toList) :
    Text.lowercase path = Text.lowercase name ↔ Unblanked path.toList := by
  constructor
  · intro whole
    exact ((lowercase_path_eq_iff same plain).1 whole).1
  · intro unblanked
    rw [lowercase_eq_lowercase_iff, steadyPath, steadyName, lowerWithin_of_unblanked unblanked,
      lowerWithin_of_unblanked plain, same]

end

/-- A path without points is one segment. -/
theorem pathSegments_of_no_point {path : String} (whole : '.' ∉ path.toList) :
    pathSegments path = [String.ofList (Text.trimChars path.toList)] := by
  have pieces := Text.splitOn_append whole (List.splitOn_nil '.')
  rw [List.append_nil] at pieces
  rw [Catalog.pathSegments_eq, pieces, List.map_singleton]

/-! ## Overrides -/

namespace CaseSettings
variable {Entity : Type} [DecidableEq Entity]

theorem ignoresCaseAt_override (e : Entity) (path name : String) (flag : Bool) :
    (ofBlocks [(e, [.property path flag])]).ignoresCaseAt e name =
      (flag && decide (Text.lowercase path = Text.lowercase name)) := by
  have calls : callsFor e [(e, [CaseCall.property path flag])] = [.property path flag] := by
    simp [callsFor]
  rw [ignoresCaseAt_ofBlocks, ignoresCase_ofBlocks, calls]
  by_cases same : Text.lowercase path = Text.lowercase name <;>
    simp [CaseCall.lastFlag?, CaseCall.flagAt?, CaseCall.entityFlag?, same]

theorem ignoresCaseAt_entity (e : Entity) (name : String) (flag : Bool) :
    (ofBlocks [(e, [.ignoreCase flag])]).ignoresCaseAt e name = flag := by
  have calls : callsFor e [(e, [CaseCall.ignoreCase flag])] = [.ignoreCase flag] := by
    simp [callsFor]
  rw [ignoresCaseAt_ofBlocks, ignoresCase_ofBlocks, calls]
  rfl

end CaseSettings

namespace FilterCompiler
variable {c : Catalog} [DecidableEq c.Entity]

/-- The filter on a property depends on the settings through the one flag that they give it. -/
theorem compileSpec_of_flag {settings settings' : CaseSettings c.Entity} {access : AccessMode}
    {e : c.Entity} {path : String} {p : ResolvedProperty (c.Row e)}
    (resolved : c.resolve e path access = .ok p)
    (agree : settings.ignoresCaseAt e p.name = settings'.ignoresCaseAt e p.name)
    (spec : FilterSpec) :
    compileSpec ⟨settings, access⟩ e path spec = compileSpec ⟨settings', access⟩ e path spec := by
  have inner : compileResolved ⟨settings, access⟩ e p spec =
      compileResolved ⟨settings', access⟩ e p spec :=
    compileResolved_congr fun condition _ => compileCondition_congr fun _ => agree
  rw [compileSpec, compileSpec, resolved]
  exact inner

end FilterCompiler

namespace CaseSettings
variable {c : Catalog} [DecidableEq c.Entity]

/-- One flag, set for a property under a path to it. It is in force for the property exactly if path
and name have one small form as whole texts; otherwise the property has the flag of its entity,
which is not set. Every filter on the property, by whichever path and in whichever mode, is compiled
under it as if the flag in force were set for the whole entity. Path and name have one small form
exactly if the path has no blanks at its ends and next to its points and points change the same
sigmas in both: so for a path of one segment, and where neither has a capital sigma, exactly if the
path has no such blanks. -/
theorem override_reaches (e : c.Entity) (path : String) (mode : AccessMode)
    (p : ResolvedProperty (c.Row e)) (resolved : c.resolve e path mode = .ok p) (flag : Bool) :
    (ofBlocks [(e, [.property path flag])]).ignoresCaseAt e p.name =
      (flag && decide (Text.lowercase path = Text.lowercase p.name)) ∧
    (∀ access other q spec, c.resolve e other access = .ok q → q.name = p.name →
      FilterCompiler.compileSpec ⟨ofBlocks [(e, [.property path flag])], access⟩ e other spec =
        FilterCompiler.compileSpec ⟨ofBlocks [(e, [.ignoreCase
          (flag && decide (Text.lowercase path = Text.lowercase p.name))])], access⟩ e other
          spec) ∧
    (Text.lowercase path = Text.lowercase p.name ↔
      Unblanked path.toList ∧ sigmaChanges [] path.toList = sigmaChanges [] p.name.toList) ∧
    ('.' ∉ path.toList ∨ 'Σ' ∉ path.toList ∧ 'Σ' ∉ p.name.toList →
      (Text.lowercase path = Text.lowercase p.name ↔ Unblanked path.toList)) := by
  obtain ⟨names, some_name, valid, named, along⟩ := Catalog.exists_names resolved
  have segments : pathSegments p.name = names := by
    rw [named]
    exact pathSegments_intercalate some_name valid
  have same : (pathSegments path).map nameKey = (pathSegments p.name).map nameKey := by
    rw [along, segments]
  have plain : Unblanked p.name.toList := by
    rw [named]
    exact unblanked_intercalate some_name valid
  refine ⟨ignoresCaseAt_override e path p.name flag, fun access other q spec leads named => ?_,
    lowercase_path_eq_iff same plain, fun steady => ?_⟩
  · refine FilterCompiler.compileSpec_of_flag leads ?_ spec
    rw [named, ignoresCaseAt_override, ignoresCaseAt_entity]
  · have steady : Text.lowerChars path.toList = lowerWithin [] path.toList ∧
        Text.lowerChars p.name.toList = lowerWithin [] p.name.toList := by
      rcases steady with whole | ⟨freePath, freeName⟩
      · -- a path of one segment leads to a name of one segment
        rw [pathSegments_of_no_point whole, List.map_singleton] at along
        obtain ⟨name, rfl, -⟩ := List.map_eq_singleton_iff.1 along.symm
        have single : '.' ∉ p.name.toList := by
          rw [named]
          exact (valid name List.mem_cons_self).whole
        exact ⟨Text.lowerAfter_of_no_point List.not_mem_nil whole,
          Text.lowerAfter_of_no_point List.not_mem_nil single⟩
      · exact ⟨Text.lowerAfter_of_no_sigma freePath [], Text.lowerAfter_of_no_sigma freeName []⟩
    exact lowercase_path_eq_iff_of_steady same plain steady.1 steady.2

end CaseSettings

/-! ## Names of authors and of superiors -/

/-- The name of a book's author. -/
def authorName : ResolvedProperty Book where
  name := "Author.Name"
  type := .text
  nullable := false
  read book := some book.author.name
  column := ⟨some "Author", "Name"⟩

theorem resolve_authorName : shelf.resolve .book "AUTHOR.name" .direct = .ok authorName := rfl

theorem unblanked_authorName : Unblanked "AUTHOR.name".toList := by
  have pieces : "AUTHOR.name".toList.splitOn '.' = ["AUTHOR".toList, "name".toList] := rfl
  unfold Unblanked
  rw [pieces, List.forall_mem_cons, List.forall_mem_singleton]
  exact ⟨⟨by decide, by decide⟩, ⟨by decide, by decide⟩⟩

/-- A flag under a path without blanks holds for every filter on the property, also by a path with
some. -/
theorem authorName_override :
    shelf.resolve .book "AUTHOR.name" .direct = .ok authorName ∧
    (CaseSettings.ofBlocks [(ShelfEntity.book, [.property "AUTHOR.name" true])]).ignoresCaseAt .book
      "Author.Name" = true ∧
    (∀ spec,
      FilterCompiler.compileSpec (c := shelf) ⟨CaseSettings.ofBlocks [(ShelfEntity.book,
          [.property "AUTHOR.name" true])], .nullSafe⟩ .book " author . Name" spec =
        FilterCompiler.compileSpec (c := shelf) ⟨CaseSettings.ofBlocks [(ShelfEntity.book,
          [.ignoreCase true])], .nullSafe⟩ .book " author . Name" spec) := by
  obtain ⟨inForce, compiled, -, steady⟩ :=
    CaseSettings.override_reaches (c := shelf) .book "AUTHOR.name" .direct authorName
      resolve_authorName true
  have same : Text.lowercase "AUTHOR.name" = Text.lowercase authorName.name :=
    (steady (.inr ⟨by decide, by decide⟩)).2 unblanked_authorName
  rw [decide_eq_true same, Bool.and_true] at inForce compiled
  exact ⟨resolve_authorName, inForce, fun spec =>
    compiled .nullSafe " author . Name" authorName spec rfl rfl⟩

/-- Staff with names in Greek, of which the one for the superior ends in a sigma. -/
def greekStaff : Catalog where
  Entity := Unit
  Row _ := Employee
  name _ := "Employee"
  schema _ :=
    match (({ : SchemaBuilder (fun _ : Unit => Employee) Employee}.required "ΟΝΟΜΑ" .text
      Employee.name).optionalLink "ΔΙΕΥΘΥΝΤΗΣ" () Employee.superior).build "Employee" with
    | .ok schema => schema
    | .error _ => .empty

/-- The name of an employee's superior. -/
def greekSuperiorName : ResolvedProperty Employee where
  name := "ΔΙΕΥΘΥΝΤΗΣ.ΟΝΟΜΑ"
  type := .text
  nullable := true
  read row := row.superior.bind fun superior => some superior.name
  column := ⟨some "ΔΙΕΥΘΥΝΤΗΣ", "ΟΝΟΜΑ"⟩

/-- Flags that are lost: one under a path that starts with a blank, and one under a path in small
letters, as the sigma before the point ends a segment there and stands within a word of the name. -/
theorem authorName_override_lost :
    (shelf.resolve .book " author.name" .direct = .ok authorName ∧
      (CaseSettings.ofBlocks [(ShelfEntity.book, [.property " author.name" true])]).ignoresCaseAt
        .book authorName.name = false) ∧
    (greekStaff.resolve () "διευθυντης.ονομα" .nullSafe = .ok greekSuperiorName ∧
      (CaseSettings.ofBlocks [((), [.property "διευθυντης.ονομα" true])]).ignoresCaseAt ()
        greekSuperiorName.name = false) :=
  ⟨⟨rfl, by decide +kernel⟩, rfl, by decide +kernel⟩

end RowQuery
