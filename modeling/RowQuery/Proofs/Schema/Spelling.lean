import RowQuery.Filter.Compiler
import RowQuery.Proofs.Schema.Column
import RowQuery.Proofs.Text.Lowercase

/-!
# Spellings of one path

A path may be written in any case and with blanks around its segments. What it resolves to carries
the names as they are registered, and these written with points between them are a path again, to
the same property: a name that a segment finds has no point in it and no blank at its ends, because
casing keeps both. So all spellings of one property resolve alike, and nothing that is compiled from
a path depends on its spelling.
-/
namespace RowQuery
open Outcome

/-! ## Names as segments -/

/-- A name that can stand as a segment of a path. -/
structure Segment (name : String) : Prop where
  whole : '.' ∉ name.toList
  trimmed : Text.Trimmed name.toList

theorem Segment.of_nameKey {name segment : String} (valid : Segment segment)
    (named : nameKey name = nameKey segment) : Segment name := by
  have same : Text.lowerChars name.toList = Text.lowerChars segment.toList := by
    rw [← Text.toList_lowercase, ← Text.toList_lowercase]
    exact congrArg String.toList named
  constructor
  · rw [← Text.point_mem_lowerChars, same, Text.point_mem_lowerChars]
    exact valid.whole
  · rw [← Text.trimmed_lowerChars, same, Text.trimmed_lowerChars]
    exact valid.trimmed

theorem mem_of_mem_trimChars {x : Char} {cs : List Char} (member : x ∈ Text.trimChars cs) :
    x ∈ cs := by
  rw [Text.trimChars, List.mem_reverse] at member
  have inner := (List.dropWhile_suffix Text.isBlank).subset member
  exact (List.dropWhile_suffix Text.isBlank).subset (List.mem_reverse.1 inner)

theorem segment_of_mem_pathSegments {path segment : String}
    (member : segment ∈ pathSegments path) : Segment segment := by
  obtain ⟨piece, part, rfl⟩ := List.mem_map.1 member
  constructor
  · rw [String.toList_ofList]
    exact fun point => Text.not_mem_of_mem_split part (mem_of_mem_trimChars point)
  · rw [String.toList_ofList]
    exact Text.trimmed_trimChars piece

/-- Names with points between them have just these pieces. -/
theorem splitOn_intercalate {names : List String} (some_name : names ≠ [])
    (valid : ∀ name ∈ names, Segment name) :
    (".".intercalate names).toList.splitOn '.' = names.map String.toList := by
  have points : ∀ cs ∈ names.map String.toList, '.' ∉ cs := by
    intro cs member
    obtain ⟨name, listed, rfl⟩ := List.mem_map.1 member
    exact (valid name listed).whole
  have text : (".".intercalate names).toList = ['.'].intercalate (names.map String.toList) :=
    String.toList_intercalate
  rw [text, List.splitOn_intercalate '.' points (by simpa using some_name)]

/-- Names with points between them are the path of just these segments. -/
theorem pathSegments_intercalate {names : List String} (some_name : names ≠ [])
    (valid : ∀ name ∈ names, Segment name) : pathSegments (".".intercalate names) = names := by
  rw [Catalog.pathSegments_eq, splitOn_intercalate some_name valid, List.map_map]
  have kept : ∀ name ∈ names,
      ((fun piece => String.ofList (Text.trimChars piece)) ∘ String.toList) name = name := by
    intro name listed
    rw [Function.comp_apply, (valid name listed).trimmed.trimChars_eq, String.ofList_toList]
  rw [List.map_congr_left kept, List.map_id']

namespace Catalog
variable {c : Catalog} {e : c.Entity} {mode : AccessMode}

/-- Where segments lead depends on what they name and not on how they are written. -/
theorem Leads.respell {segments others : List String} {p : ResolvedProperty (c.Row e)}
    (leads : Leads c mode e segments p) (same : segments.map nameKey = others.map nameKey) :
    Leads c mode e others p := by
  have find : ∀ {e : c.Entity} {segment other : String}, nameKey segment = nameKey other →
      (c.schema e).find? other = (c.schema e).find? segment := by
    intro e segment other named
    rw [Schema.find?, Schema.find?, named]
  induction leads generalizing others with
  | required found kind =>
    obtain ⟨other, rfl, named⟩ := List.map_eq_singleton_iff.1 same.symm
    exact .required ((find named.symm).trans found) kind
  | optional found kind =>
    obtain ⟨other, rfl, named⟩ := List.map_eq_singleton_iff.1 same.symm
    exact .optional ((find named.symm).trans found) kind
  | link found kind beyond ih =>
    obtain ⟨other, rest, rfl, named, along⟩ := List.map_eq_cons_iff.1 same.symm
    exact .link ((find named.symm).trans found) kind (ih along.symm)
  | optionalLink found kind safe beyond ih =>
    obtain ⟨other, rest, rfl, named, along⟩ := List.map_eq_cons_iff.1 same.symm
    exact .optionalLink ((find named.symm).trans found) kind safe (ih along.symm)

/-- What a path resolves to is named by segments, which name the same as those of the path. -/
theorem exists_names {path : String} {p : ResolvedProperty (c.Row e)}
    (resolved : c.resolve e path mode = .ok p) :
    ∃ names, names ≠ [] ∧ (∀ name ∈ names, Segment name) ∧ p.name = ".".intercalate names ∧
      (pathSegments path).map nameKey = names.map nameKey := by
  obtain ⟨f, route, leaf, follows, rfl⟩ := exists_follows resolved
  refine ⟨route.names ++ [leaf.property.name], by simp, fun name listed => ?_, rfl, follows⟩
  have spelled : nameKey name ∈ (pathSegments path).map nameKey := by
    rw [follows]
    exact List.mem_map_of_mem listed
  obtain ⟨segment, member, named⟩ := List.mem_map.1 spelled
  exact (segment_of_mem_pathSegments member).of_nameKey named.symm

/-- The name of what a path resolves to is a path to it. -/
theorem resolve_canonical {path : String} {p : ResolvedProperty (c.Row e)}
    (resolved : c.resolve e path mode = .ok p) : c.resolve e p.name mode = .ok p := by
  obtain ⟨names, some_name, valid, named, same⟩ := exists_names resolved
  have segments : pathSegments p.name = names := by
    rw [named]
    exact pathSegments_intercalate some_name valid
  rw [resolve_success, segments]
  exact (resolve_success.1 resolved).respell same

end Catalog

namespace FilterCompiler
variable {c : Catalog} [DecidableEq c.Entity]

/-- The spelling of a path does not matter. Two paths that resolve to properties of one name give
the same filter or the same error for every model, and the name itself resolves to the same property
as either. -/
theorem compileProperty_of_same_name (compiler : FilterCompiler c) (e : c.Entity)
    (path₁ path₂ : String) (p₁ p₂ : ResolvedProperty (c.Row e))
    (resolved₁ : c.resolve e path₁ compiler.access = .ok p₁)
    (resolved₂ : c.resolve e path₂ compiler.access = .ok p₂) (same : p₁.name = p₂.name) :
    (∀ model, compiler.compileProperty e path₁ model = compiler.compileProperty e path₂ model) ∧
      c.resolve e p₁.name compiler.access = .ok p₁ ∧ p₁ = p₂ := by
  have canonical := Catalog.resolve_canonical resolved₁
  have one : p₁ = p₂ := by
    rw [same, Catalog.resolve_canonical resolved₂] at canonical
    exact (Except.ok.inj canonical).symm
  refine ⟨fun model => ?_, canonical, one⟩
  have specs : ∀ spec, compiler.compileSpec e path₁ spec = compiler.compileSpec e path₂ spec := by
    intro spec
    rw [compileSpec, compileSpec, resolved₁, resolved₂, one]
  rw [compileProperty, compileProperty]
  exact congrArg _ (funext specs)

end FilterCompiler

/-- The rating of an employee's superior, spelled in two ways and by its name. -/
theorem superiorRating_spellings :
    staff.resolve () " superior . RATING" .nullSafe = .ok superiorRating ∧
    staff.resolve () "SUPERIOR.Rating\t" .nullSafe = .ok superiorRating ∧
    (∀ model, FilterCompiler.compileProperty (c := staff) ⟨{}, .nullSafe⟩ ()
        " superior . RATING" model =
      FilterCompiler.compileProperty (c := staff) ⟨{}, .nullSafe⟩ () "SUPERIOR.Rating\t" model) ∧
    staff.resolve () "Superior.Rating" .nullSafe = .ok superiorRating := by
  have second : staff.resolve () "SUPERIOR.Rating\t" .nullSafe = .ok superiorRating := rfl
  have same := FilterCompiler.compileProperty_of_same_name (c := staff) ⟨{}, .nullSafe⟩ () _ _ _ _
    resolve_superiorRating second rfl
  exact ⟨resolve_superiorRating, second, same.1, same.2.1⟩

end RowQuery
