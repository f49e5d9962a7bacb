import RowQuery.Proofs.Schema.Spelling

/-!
# Schemas from calls

A schema is registered call by call. A column belongs to the property registered last before it, the
last of several columns counts, and a column before the first property is lost. What is built at the
end is an index from names to places: it is refused at the first property whose name has a place
already, and otherwise leads from every name, in any case, to the one property that has it.
-/
namespace RowQuery

section
variable {Entity : Type} {Row : Entity → Type} {R : Type}

/-! ## Calls -/

/-- A call of the builder. -/
inductive SchemaCall {Entity : Type} (Row : Entity → Type) (R : Type) where
  | required (name : String) (τ : ValueType) (get : R → τ.Carrier)
  | optional (name : String) (τ : ValueType) (get : R → Option τ.Carrier)
  | link (name : String) (target : Entity) (get : R → Row target)
  | optionalLink (name : String) (target : Entity) (get : R → Option (Row target))
  | column (given : String)

namespace SchemaCall

/-- The name and the kind that a call registers. -/
def registers? : SchemaCall Row R → Option (String × PropertyKind Row R)
  | required name τ get => some (name, .required τ get)
  | optional name τ get => some (name, .optional τ get)
  | link name target get => some (name, .link target get)
  | optionalLink name target get => some (name, .optionalLink target get)
  | column _ => none

def column? : SchemaCall Row R → Option String
  | column given => some given
  | _ => none

/-- The names that are registered, in order. -/
def names (calls : List (SchemaCall Row R)) : List String :=
  (calls.filterMap registers?).map (·.1)

/-- The column of a property, by the calls behind its registration: the last one that is given
before the next registration, or else its name. -/
def columnFor (name : String) (after : List (SchemaCall Row R)) : String :=
  ((after.takeWhile (·.registers?.isNone)).filterMap column?).getLast?.getD name

theorem exists_column_of_registers {call : SchemaCall Row R} (registers : call.registers? = none) :
    ∃ given, call = .column given := by
  cases call <;> cases registers
  exact ⟨_, rfl⟩

/-- A column counts unless another one follows. -/
theorem columnFor_column (name given : String) (after : List (SchemaCall Row R)) :
    columnFor name (.column given :: after) = columnFor given after := by
  have leads : (SchemaCall.column given :: after).takeWhile (·.registers?.isNone) =
      .column given :: after.takeWhile (·.registers?.isNone) := List.takeWhile_cons_of_pos rfl
  have own : (SchemaCall.column given : SchemaCall Row R).column? = some given := rfl
  rw [columnFor, leads, List.filterMap_cons_some own, List.getLast?_cons, Option.getD_some,
    columnFor]

/-- The properties that are registered, in order. -/
def properties : List (SchemaCall Row R) → List (Property Row R)
  | [] => []
  | call :: after =>
    match call.registers? with
    | some (name, kind) => ⟨name, columnFor name after, kind⟩ :: properties after
    | none => properties after

theorem names_properties (calls : List (SchemaCall Row R)) :
    (properties calls).map (·.name) = names calls := by
  induction calls with
  | nil => rfl
  | cons call after ih =>
    cases call <;> simp only [properties, registers?, names, List.map_cons, List.filterMap_cons,
      ih]

theorem keys_properties (calls : List (SchemaCall Row R)) :
    (properties calls).map Property.key = (names calls).map nameKey := by
  rw [← names_properties, List.map_map]
  rfl

theorem mem_properties (before after : List (SchemaCall Row R)) {call : SchemaCall Row R}
    {name : String} {kind : PropertyKind Row R} (registers : call.registers? = some (name, kind)) :
    ⟨name, columnFor name after, kind⟩ ∈ properties (before ++ call :: after) := by
  induction before with
  | nil =>
    rw [List.nil_append, properties, registers]
    exact List.mem_cons_self
  | cons first before ih =>
    rw [List.cons_append, properties]
    split
    · exact List.mem_cons_of_mem _ ih
    · exact ih

end SchemaCall

namespace SchemaBuilder
open SchemaCall

def call (b : SchemaBuilder Row R) : SchemaCall Row R → SchemaBuilder Row R
  | .required name τ get => b.required name τ get
  | .optional name τ get => b.optional name τ get
  | .link name target get => b.link name target get
  | .optionalLink name target get => b.optionalLink name target get
  | .column given => b.column given

/-- The builder after a sequence of calls. -/
def ofCalls (calls : List (SchemaCall Row R)) : SchemaBuilder Row R := calls.foldl call {}

theorem call_of_registers {b : SchemaBuilder Row R} {call : SchemaCall Row R} {name : String}
    {kind : PropertyKind Row R} (registers : call.registers? = some (name, kind)) :
    b.call call = b.register name kind := by
  cases call <;> cases registers <;> rfl

theorem column_append (before : List (Property Row R)) (p : Property Row R) (column : String) :
    (⟨before ++ [p]⟩ : SchemaBuilder Row R).column column =
      ⟨before ++ [{ p with column := column }]⟩ := by
  simp [SchemaBuilder.column]

/-- Calls do not touch the properties before the last one, and the last one gets its column from
them. -/
theorem properties_foldl_call (before : List (Property Row R)) (p : Property Row R)
    (calls : List (SchemaCall Row R)) :
    (calls.foldl call (⟨before ++ [p]⟩ : SchemaBuilder Row R)).properties =
      before ++ { p with column := columnFor p.column calls } :: SchemaCall.properties calls := by
  induction calls generalizing before p with
  | nil => rfl
  | cons call after ih =>
    cases registers : call.registers? with
    | none =>
      obtain ⟨given, rfl⟩ := exists_column_of_registers registers
      rw [List.foldl_cons, SchemaBuilder.call, column_append, ih, columnFor_column]
      rfl
    | some registered =>
      obtain ⟨name, kind⟩ := registered
      rw [List.foldl_cons, call_of_registers registers, register, ih, List.append_assoc,
        List.singleton_append]
      simp [SchemaCall.properties, registers, columnFor]

/-- The builder holds what its calls have registered. -/
theorem properties_ofCalls (calls : List (SchemaCall Row R)) :
    (ofCalls calls).properties = SchemaCall.properties calls := by
  unfold ofCalls
  induction calls with
  | nil => rfl
  | cons call after ih =>
    cases registers : call.registers? with
    | none =>
      obtain ⟨given, rfl⟩ := exists_column_of_registers registers
      exact ih
    | some registered =>
      obtain ⟨name, kind⟩ := registered
      rw [List.foldl_cons, call_of_registers registers, SchemaCall.properties, registers]
      exact properties_foldl_call [] ⟨name, name, kind⟩ after

end SchemaBuilder

/-! ## The index -/

/-- Places of properties under their keys, from `place` on. A key that has a place already is
refused. -/
def indexFrom (index : Assoc String Nat) (place : Nat) :
    List (Property Row R) → Except (Property Row R) (Assoc String Nat)
  | [] => .ok index
  | p :: ps =>
    match index.get? p.key with
    | some _ => .error p
    | none => indexFrom (index.put p.key place) (place + 1) ps

/-- The index is refused at the first property whose name is taken. -/
theorem firstRepeated?_eq_index {index : Assoc String Nat} {taken : List String}
    (same : ∀ key, (index.get? key).isSome = taken.contains key) (place : Nat)
    (ps : List (Property Row R)) :
    firstRepeated? taken ps =
      match indexFrom index place ps with
      | .error p => some p
      | .ok _ => none := by
  induction ps generalizing index taken place with
  | nil => rfl
  | cons p ps ih =>
    have known := same p.key
    unfold firstRepeated? indexFrom
    cases held : index.get? p.key with
    | some old =>
      rw [held] at known
      exact if_pos known.symm
    | none =>
      rw [held] at known
      rw [if_neg (by rw [← known]; exact Bool.false_ne_true)]
      refine ih (fun key => ?_) (place + 1)
      rw [Assoc.get?_put, List.contains_cons]
      by_cases own : key = p.key
      · simp [own]
      · simp [own, same]

theorem get?_of_indexFrom {index full : Assoc String Nat} {place : Nat}
    {ps : List (Property Row R)} (indexed : indexFrom index place ps = .ok full) (key : String)
    (i : Nat) :
    full.get? key = some i ↔
      index.get? key = some i ∨ ∃ j q, ps[j]? = some q ∧ q.key = key ∧ i = place + j := by
  induction ps generalizing index place with
  | nil =>
    cases indexed
    simp
  | cons p ps ih =>
    unfold indexFrom at indexed
    cases held : index.get? p.key with
    | some old =>
      rw [held] at indexed
      cases indexed
    | none =>
      rw [held] at indexed
      rw [ih indexed, Assoc.get?_put]
      constructor
      · rintro (here | ⟨j, q, found, named, rfl⟩)
        · split at here
          · rename_i own
            exact Or.inr ⟨0, p, rfl, own.symm, (Option.some.inj here).symm⟩
          · exact Or.inl here
        · exact Or.inr ⟨j + 1, q, found, named, by omega⟩
      · rintro (earlier | ⟨j, q, found, named, rfl⟩)
        · have other : key ≠ p.key := by
            rintro rfl
            cases held.symm.trans earlier
          exact Or.inl ((if_neg other).trans earlier)
        · cases j with
          | zero =>
            cases found
            exact Or.inl (if_pos named.symm)
          | succ j => exact Or.inr ⟨j, q, found, named, by omega⟩

/-- The places of the properties of a builder. -/
def SchemaBuilder.index (b : SchemaBuilder Row R) :
    Except (Property Row R) (Assoc String Nat) :=
  indexFrom [] 0 b.properties

theorem SchemaBuilder.index_places {b : SchemaBuilder Row R} {index : Assoc String Nat}
    (indexed : b.index = .ok index) (key : String) (place : Nat) :
    index.get? key = some place ↔ ∃ q, b.properties[place]? = some q ∧ q.key = key := by
  rw [get?_of_indexFrom indexed]
  have nothing : Assoc.get? ([] : Assoc String Nat) key = none := rfl
  simp only [nothing, reduceCtorEq, false_or, Nat.zero_add]
  constructor
  · rintro ⟨j, q, found, named, rfl⟩
    exact ⟨q, found, named⟩
  · rintro ⟨q, found, named⟩
    exact ⟨place, q, found, named, rfl⟩

theorem firstRepeated?_eq_none_iff {taken : List String} {ps : List (Property Row R)} :
    firstRepeated? taken ps = none ↔
      (ps.map Property.key).Nodup ∧ ∀ p ∈ ps, p.key ∉ taken := by
  constructor
  · exact nodup_of_firstRepeated?_eq_none
  · intro distinct
    induction ps generalizing taken with
    | nil => rfl
    | cons p ps ih =>
      obtain ⟨keys, fresh⟩ := distinct
      obtain ⟨own, rest⟩ := List.nodup_cons.1 keys
      obtain ⟨first, others⟩ := List.forall_mem_cons.1 fresh
      rw [firstRepeated?, if_neg (by simpa using first)]
      refine ih ⟨rest, fun q member taken => ?_⟩
      rcases List.mem_cons.1 taken with same | taken
      · exact own (List.mem_map.2 ⟨q, member, same⟩)
      · exact others q member taken

/-- The first property whose name is taken stands behind properties none of whose names is. -/
theorem firstRepeated?_eq_some_iff {taken : List String} {ps : List (Property Row R)}
    {p : Property Row R} :
    firstRepeated? taken ps = some p ↔
      ∃ before after, ps = before ++ p :: after ∧ firstRepeated? taken before = none ∧
        p.key ∈ before.map Property.key ++ taken := by
  induction ps generalizing taken with
  | nil => simp [firstRepeated?]
  | cons q ps ih =>
    rw [firstRepeated?]
    split
    · rename_i repeated
      constructor
      · intro found
        cases found
        exact ⟨[], ps, rfl, rfl, by simpa using repeated⟩
      · rintro ⟨before, after, same, distinct, -⟩
        cases before with
        | nil => rw [(List.cons.inj same).1]
        | cons b before =>
          rw [← (List.cons.inj same).1, firstRepeated?, if_pos repeated] at distinct
          cases distinct
    · rename_i fresh
      rw [ih]
      constructor
      · rintro ⟨before, after, rfl, distinct, named⟩
        refine ⟨q :: before, after, rfl, ?_, ?_⟩
        · rw [firstRepeated?, if_neg fresh, distinct]
        · simpa [or_left_comm] using named
      · rintro ⟨before, after, same, distinct, named⟩
        cases before with
        | nil =>
          rw [← (List.cons.inj same).1] at named
          exact absurd (by simpa using named) fresh
        | cons b before =>
          obtain ⟨rfl, rfl⟩ := List.cons.inj same
          rw [firstRepeated?, if_neg fresh] at distinct
          exact ⟨before, after, rfl, distinct, by simpa [or_left_comm] using named⟩

/-- In terms of names: the first name that repeats one before it, in any case. -/
theorem exists_firstRepeated?_iff {ps : List (Property Row R)} {name : String} :
    (∃ p, firstRepeated? [] ps = some p ∧ p.name = name) ↔
      ∃ before after, ps.map (·.name) = before ++ name :: after ∧ (before.map nameKey).Nodup ∧
        nameKey name ∈ before.map nameKey := by
  have keys : ∀ part : List (Property Row R),
      (part.map (·.name)).map nameKey = part.map Property.key := by
    intro part
    rw [List.map_map]
    rfl
  constructor
  · rintro ⟨p, found, rfl⟩
    obtain ⟨before, after, rfl, distinct, named⟩ := firstRepeated?_eq_some_iff.1 found
    refine ⟨before.map (·.name), after.map (·.name), by simp, ?_, ?_⟩
    · rw [keys]
      exact (firstRepeated?_eq_none_iff.1 distinct).1
    · rwa [keys, ← List.append_nil (before.map _)]
  · rintro ⟨names, rest, split, distinct, named⟩
    obtain ⟨before, others, rfl, rfl, ends⟩ := List.map_eq_append_iff.1 split
    obtain ⟨p, after, rfl, rfl, -⟩ := List.map_eq_cons_iff.1 ends
    rw [keys] at distinct named
    refine ⟨p, firstRepeated?_eq_some_iff.2 ⟨before, after, rfl, ?_, ?_⟩, rfl⟩
    · exact firstRepeated?_eq_none_iff.2 ⟨distinct, by simp⟩
    · rwa [List.append_nil]

namespace SchemaBuilder

theorem build_eq_error_iff {b : SchemaBuilder Row R} {entity : String} {error : SchemaError} :
    b.build entity = .error error ↔
      ∃ p, firstRepeated? [] b.properties = some p ∧ error = .duplicateProperty entity p.name := by
  unfold build
  split
  · rename_i p repeated
    rw [Except.error.injEq]
    constructor
    · rintro rfl
      exact ⟨p, repeated, rfl⟩
    · rintro ⟨q, found, rfl⟩
      cases repeated.symm.trans found
      rfl
  · rename_i distinct
    constructor
    · intro failure
      cases failure
    · rintro ⟨p, found, -⟩
      cases distinct.symm.trans found

theorem build_eq_ok_iff {b : SchemaBuilder Row R} {entity : String} {s : Schema Row R} :
    b.build entity = .ok s ↔
      firstRepeated? [] b.properties = none ∧ s.properties = b.properties := by
  unfold build
  split
  · rename_i p repeated
    constructor
    · intro success
      cases success
    · rintro ⟨distinct, -⟩
      cases repeated.symm.trans distinct
  · rename_i distinct
    rw [Except.ok.injEq]
    constructor
    · rintro rfl
      exact ⟨distinct, rfl⟩
    · obtain ⟨properties, nodup⟩ := s
      rintro ⟨-, rfl⟩
      rfl

/-- The index is refused where the schema is. -/
theorem index_eq_error_iff {b : SchemaBuilder Row R} {p : Property Row R} :
    b.index = .error p ↔ firstRepeated? [] b.properties = some p := by
  have nothing : ∀ key, (Assoc.get? ([] : Assoc String Nat) key).isSome =
      ([] : List String).contains key := fun _ => rfl
  have same := firstRepeated?_eq_index nothing 0 b.properties
  rw [← index] at same
  rw [same]
  cases b.index <;> simp

theorem exists_index_of_build {b : SchemaBuilder Row R} {entity : String} {s : Schema Row R}
    (built : b.build entity = .ok s) : ∃ index, b.index = .ok index := by
  cases indexed : b.index with
  | ok index => exact ⟨index, rfl⟩
  | error p =>
    have distinct := (build_eq_ok_iff.1 built).1
    cases distinct.symm.trans (index_eq_error_iff.1 indexed)

end SchemaBuilder

/-- A segment finds its property by way of the place that the index has for it. -/
theorem Schema.find?_eq_index {s : Schema Row R} {b : SchemaBuilder Row R}
    (same : s.properties = b.properties) {index : Assoc String Nat} (indexed : b.index = .ok index)
    (segment : String) :
    s.find? segment = (index.get? (nameKey segment)).bind fun place => s.properties[place]? := by
  ext q
  rw [Option.bind_eq_some_iff, find?_eq_some_iff, same]
  constructor
  · rintro ⟨registered, named⟩
    obtain ⟨place, found⟩ := List.mem_iff_getElem?.1 registered
    exact ⟨place, (b.index_places indexed _ _).2 ⟨q, found, named⟩, found⟩
  · rintro ⟨place, held, found⟩
    obtain ⟨other, there, named⟩ := (b.index_places indexed _ _).1 held
    cases there.symm.trans found
    exact ⟨List.mem_of_getElem? found, named⟩

end

/-! ## What is built -/

namespace Catalog
variable {c : Catalog} {e : c.Entity}

/-- A registered property that holds values is found under every spelling of its name. -/
theorem resolve_registered {q : Property c.Row (c.Row e)} {τ : ValueType} {nullable : Bool}
    {read : c.Row e → Option τ.Carrier} (registered : q ∈ (c.schema e).properties)
    (holds : q.kind.Holds τ nullable read) (valid : Segment q.name) {segment : String}
    (named : nameKey segment = nameKey q.name) (mode : AccessMode) :
    c.resolve e segment mode = .ok ⟨q.name, τ, nullable, read, ⟨none, q.column⟩⟩ := by
  have whole : pathSegments segment = [segment] := by
    have single := pathSegments_intercalate (List.cons_ne_nil segment [])
      (by simpa using valid.of_nameKey named)
    rwa [String.intercalate_singleton] at single
  have found : c.resolveSegments segment mode e [segment] =
      .ok ((Route.here e).resolved ⟨q, τ, nullable, read, registered, holds⟩) :=
    resolveSegments_leaf segment _ named
  rw [resolve, whole, found]
  simp [Route.resolved, Route.names, Route.tables, Route.optional, Route.follow]

end Catalog

namespace SchemaBuilder
open SchemaCall

/-- Building refuses exactly duplicates and keeps everything else within reach. It fails if two
registered names differ in case at most, with the first name that has occurred before. Otherwise the
schema lists the names in the order of registration and has one place for each of them, through
which segments are looked up. Whatever holds values, under a name without points and without blanks
at its ends, is then resolved from every spelling of the name, as it was registered and with the
column that was given to it last before the next registration, or its name if none was. -/
theorem build_ofCalls (c : Catalog) (e : c.Entity) (calls : List (SchemaCall c.Row (c.Row e))) :
    (∀ error, (ofCalls calls).build (c.name e) = .error error ↔
      ∃ before name after, names calls = before ++ name :: after ∧
        (before.map nameKey).Nodup ∧ nameKey name ∈ before.map nameKey ∧
        error = .duplicateProperty (c.name e) name) ∧
    ((∃ s, (ofCalls calls).build (c.name e) = .ok s) ↔ ((names calls).map nameKey).Nodup) ∧
    (∀ p, (ofCalls calls).index = .error p →
      (ofCalls calls).build (c.name e) = .error (.duplicateProperty (c.name e) p.name)) ∧
    ∀ s, (ofCalls calls).build (c.name e) = .ok s →
      s.names = names calls ∧
      (∃ index, (ofCalls calls).index = .ok index ∧
        (∀ key place, index.get? key = some place ↔
          ∃ q, s.properties[place]? = some q ∧ q.key = key) ∧
        ∀ segment, s.find? segment =
          (index.get? (nameKey segment)).bind fun place => s.properties[place]?) ∧
      (c.schema e = s → ∀ before call after name kind τ nullable read,
        calls = before ++ call :: after → call.registers? = some (name, kind) →
        kind.Holds τ nullable read → Segment name →
        ∀ segment mode, nameKey segment = nameKey name →
          c.resolve e segment mode =
            .ok ⟨name, τ, nullable, read, ⟨none, columnFor name after⟩⟩) := by
  refine ⟨fun error => ?_, ?_, fun p refused => ?_, fun s built => ?_⟩
  · rw [build_eq_error_iff]
    constructor
    · rintro ⟨p, found, rfl⟩
      have named := exists_firstRepeated?_iff.1 ⟨p, found, rfl⟩
      rw [properties_ofCalls, names_properties] at named
      obtain ⟨before, after, split, distinct, repeated⟩ := named
      exact ⟨before, p.name, after, split, distinct, repeated, rfl⟩
    · rintro ⟨before, name, after, split, distinct, repeated, rfl⟩
      rw [← names_properties, ← properties_ofCalls] at split
      obtain ⟨p, found, rfl⟩ := exists_firstRepeated?_iff.2
        ⟨before, after, split, distinct, repeated⟩
      exact ⟨p, found, rfl⟩
  · rw [← keys_properties, ← properties_ofCalls]
    constructor
    · rintro ⟨s, built⟩
      rw [← (build_eq_ok_iff.1 built).2]
      exact s.nodup
    · intro distinct
      have free := firstRepeated?_eq_none_iff.2 ⟨distinct, fun _ _ => List.not_mem_nil⟩
      exact ⟨⟨_, distinct⟩, build_eq_ok_iff.2 ⟨free, rfl⟩⟩
  · exact build_eq_error_iff.2 ⟨p, index_eq_error_iff.1 refused, rfl⟩
  · have held := (build_eq_ok_iff.1 built).2
    obtain ⟨index, indexed⟩ := exists_index_of_build built
    refine ⟨?_, ⟨index, indexed, fun key place => ?_, fun segment => ?_⟩, ?_⟩
    · rw [Schema.names, held, properties_ofCalls, names_properties]
    · rw [held]
      exact index_places indexed key place
    · exact Schema.find?_eq_index held indexed segment
    · rintro rfl before call after name kind τ nullable read rfl registers holds valid segment mode
        named
      have registered := mem_properties before after registers
      rw [← properties_ofCalls, ← held] at registered
      exact Catalog.resolve_registered registered holds valid named mode

/-- A name that is taken in another case is refused, and none after it. -/
example :
    let calls : List (SchemaCall (fun _ : Unit => Employee) Employee) :=
      [.required "Name" .text Employee.name, .optional "Rating" .float32 Employee.rating,
        .required "NAME" .text Employee.name, .required "rating" .text Employee.name]
    (match (ofCalls calls).build "Employee" with
      | .error error => error.message
      | .ok _ => "") = "property 'NAME' registered twice on Employee" := by
  decide +kernel

end SchemaBuilder

/-! ## Employees with columns of their own -/

/-- The first column comes too early for any property, and of the two for the rating the last one
counts. -/
def columnCalls : List (SchemaCall (fun _ : Unit => Employee) Employee) :=
  [.column "early", .required "Name" .text Employee.name, .optional "Rating" .float32 Employee.rating,
    .column "score", .column "rating_no", .optionalLink "Superior" () Employee.superior,
    .column "boss"]

def columnStaff : Catalog where
  Entity := Unit
  Row _ := Employee
  name _ := "Employee"
  schema _ :=
    match (SchemaBuilder.ofCalls columnCalls).build "Employee" with
    | .ok schema => schema
    | .error _ => .empty

theorem rating_segment : Segment "Rating" where
  whole := by decide
  trimmed := ⟨by decide, by decide⟩

/-- Their rating is found in capitals, in the column given last. -/
theorem columnStaff_built :
    (SchemaBuilder.ofCalls columnCalls).build "Employee" = .ok (columnStaff.schema ()) ∧
    (columnStaff.schema ()).names = ["Name", "Rating", "Superior"] ∧
    columnStaff.resolve () "RATING" .direct =
      .ok ⟨"Rating", .float32, true, Employee.rating, ⟨none, "rating_no"⟩⟩ := by
  have built : (SchemaBuilder.ofCalls columnCalls).build (columnStaff.name ()) =
      .ok (columnStaff.schema ()) := rfl
  obtain ⟨-, -, -, kept⟩ := SchemaBuilder.build_ofCalls columnStaff () columnCalls
  obtain ⟨names, -, reached⟩ := kept _ built
  refine ⟨built, names, ?_⟩
  exact reached rfl [.column "early", .required "Name" .text Employee.name]
    (.optional "Rating" .float32 Employee.rating) _ "Rating" _ _ _ _ rfl rfl (.optional _ _)
    rating_segment "RATING" .direct (by decide +kernel)

end RowQuery
