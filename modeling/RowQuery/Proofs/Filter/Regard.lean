import RowQuery.Proofs.Filter.Enumeration

/-!
# What filters learn from case settings

Settings tell a filter one thing only: whether the texts of a property are compared with regard to
case. It is asked for in text conditions alone, under the name of the property and for the entity at
the start of its path, whichever entity the property belongs to. Settings that agree there compile a
filter to the same outcome, whatever else they hold.
-/
namespace RowQuery
open Outcome

/-- A block of calls for one entity leaves the settings of all others as they were. -/
theorem CaseSettings.ignoresCaseAt_block_of_ne {Entity : Type} [DecidableEq Entity]
    (s : CaseSettings Entity) {e other : Entity} (apart : other ≠ e) (calls : List CaseCall)
    (path : String) : (s.block other calls).ignoresCaseAt e path = s.ignoresCaseAt e path := by
  have untouched : (s.block other calls).entity e = s.entity e := by
    rw [entity, block, Assoc.get?_put, if_neg (Ne.symm apart), entity]
  simp only [ignoresCaseAt, ignoresCase, untouched]

/-- Only text conditions regard case. -/
theorem Condition.compile_of_not_text {R : Type} (p : ResolvedProperty R) {condition : Condition}
    (other : condition.kind ≠ .text) (ignoreCase ignoreCase' : Bool) :
    condition.compile p ignoreCase = condition.compile p ignoreCase' := by
  cases condition with
  | text c => exact absurd rfl other
  | date c | number c | set c => rfl

/-- No filter of a map states a text condition. -/
def FilterMap.Textless (m : FilterMap) : Prop :=
  ∀ path model spec, (path, some model) ∈ m.entries → FilterSpec.ofModel model = .ok spec →
    ∀ condition ∈ spec.conditions, condition.kind ≠ .text

namespace FilterCompiler
variable {c : Catalog} [DecidableEq c.Entity] {compiler compiler' : FilterCompiler c}
  {e : c.Entity} {p : ResolvedProperty (c.Row e)}

theorem compileCondition_congr {condition : Condition}
    (agree : condition.kind = .text →
      compiler.settings.ignoresCaseAt e p.name = compiler'.settings.ignoresCaseAt e p.name) :
    compiler.compileCondition e p condition = compiler'.compileCondition e p condition := by
  by_cases text : condition.kind = .text
  · rw [compileCondition, compileCondition, agree text]
  · exact Condition.compile_of_not_text p text _ _

/-- A specification depends on the compiler only through its conditions. -/
theorem compileResolved_congr {spec : FilterSpec}
    (same : ∀ condition ∈ spec.conditions,
      compiler.compileCondition e p condition = compiler'.compileCondition e p condition) :
    compiler.compileResolved e p spec = compiler'.compileResolved e p spec := by
  cases spec with
  | plain condition => exact same condition List.mem_cons_self
  | composite kind combinator conditions =>
    cases conditions with
    | nil => rfl
    | cons first rest =>
      obtain ⟨head, tail⟩ := List.forall_mem_cons.1 same
      have joined : compiler.compileAll e p combinator first rest =
          compiler'.compileAll e p combinator first rest := by
        rw [compileAll, compileAll, head]
        refine congrArg _ (funext (foldlM_congr fun filter condition member => ?_))
        rw [tail condition member]
      rw [compileResolved, compileResolved, joined]

/-- A map depends on the settings only through the properties of its text conditions. -/
theorem compile_congr {settings settings' : CaseSettings c.Entity} {access : AccessMode}
    {filters : FilterMap}
    (agree : ∀ path model p spec, (path, some model) ∈ filters.entries →
      c.resolve e path access = .ok p → FilterSpec.ofModel model = .ok spec →
      ∀ condition ∈ spec.conditions, condition.kind = .text →
        settings.ignoresCaseAt e p.name = settings'.ignoresCaseAt e p.name) :
    compile ⟨settings, access⟩ e filters = compile ⟨settings', access⟩ e filters := by
  have ready : prepare (c := c) ⟨settings, access⟩ e = prepare ⟨settings', access⟩ e := rfl
  rw [compile, compile, ready]
  cases run : (sortedEntries filters).mapM (prepare ⟨settings', access⟩ e) with
  | error error => rfl
  | ok prepared =>
    have same : ∀ pair ∈ prepared, compileResolved ⟨settings, access⟩ e pair.1 pair.2 =
        compileResolved ⟨settings', access⟩ e pair.1 pair.2 := by
      rintro ⟨p, spec⟩ member
      obtain ⟨⟨path, model⟩, listed, own⟩ := (mem_mapM_iff run (p, spec)).1 member
      obtain ⟨resolved, shaped⟩ := (prepare_success _ e).1 own
      refine compileResolved_congr fun condition belongs => compileCondition_congr ?_
      exact agree path model p spec ((mem_sortedEntries _ _).1 listed) resolved shaped condition
        belongs
    refine foldlM_congr (fun filter pair member => ?_) CompiledFilter.always
    simp only [same pair member]

/-- Settings reach a filter only through the text conditions of their own entity. Settings that give
one flag to every property to which a path leads from an entity compile every map of filters on it
to the same outcome, be it an error or a filter with its test and its condition. So nothing that is
set for another entity matters, though its properties stand at the ends of paths; and a map without
text conditions has the same outcome under all settings. -/
theorem compile_settings (e : c.Entity) (access : AccessMode) (filters : FilterMap)
    (settings settings' : CaseSettings c.Entity) :
    ((∀ path p, c.resolve e path access = .ok p →
        settings.ignoresCaseAt e p.name = settings'.ignoresCaseAt e p.name) →
      compile ⟨settings, access⟩ e filters = compile ⟨settings', access⟩ e filters) ∧
    (∀ other calls, other ≠ e →
      compile ⟨settings.block other calls, access⟩ e filters =
        compile ⟨settings, access⟩ e filters) ∧
    (filters.Textless →
      compile ⟨settings, access⟩ e filters = compile ⟨settings', access⟩ e filters) := by
  refine ⟨fun agree => ?_, fun other calls apart => ?_, fun textless => ?_⟩
  · exact compile_congr fun path _ p _ _ resolved _ _ _ _ => agree path p resolved
  · exact compile_congr fun _ _ p _ _ _ _ _ _ _ =>
      settings.ignoresCaseAt_block_of_ne apart calls p.name
  · exact compile_congr fun path model _ spec listed _ shaped condition belongs text =>
      absurd text (textless path model spec listed shaped condition belongs)

end FilterCompiler

/-! ## Books and their authors -/

structure Author where
  name : String

structure Book where
  title : String
  author : Author

inductive ShelfEntity where
  | author | book
  deriving DecidableEq

def ShelfEntity.Row : ShelfEntity → Type
  | author => Author
  | book => Book

def bookBuilder : SchemaBuilder ShelfEntity.Row Book :=
  ({ : SchemaBuilder ShelfEntity.Row Book}.required "Title" .text Book.title).link "Author"
    .author Book.author

def authorBuilder : SchemaBuilder ShelfEntity.Row Author :=
  { : SchemaBuilder ShelfEntity.Row Author}.required "Name" .text Author.name

def shelf : Catalog where
  Entity := ShelfEntity
  Row := ShelfEntity.Row
  name
    | .author => "Author"
    | .book => "Book"
  schema
    | .author =>
      match authorBuilder.build "Author" with
      | .ok schema => schema
      | .error _ => .empty
    | .book =>
      match bookBuilder.build "Book" with
      | .ok schema => schema
      | .error _ => .empty

instance : DecidableEq shelf.Entity := inferInstanceAs (DecidableEq ShelfEntity)

def calledAna : FilterModel :=
  { filterType := some "text", operator := some "equals", filter := some "ANA" }

/-- Books by authors of a name. -/
def byAuthor : FilterMap := FilterMap.empty.insert "author.name" (some calledAna)

theorem sortedEntries_byAuthor :
    FilterCompiler.sortedEntries byAuthor = [("author.name", calledAna)] :=
  List.mergeSort_singleton _

/-- Where nothing is set the name of an author is found as it is written. -/
theorem byAuthor_compiles :
    ∃ f, FilterCompiler.compile (c := shelf) ⟨{}, .direct⟩ .book byAuthor = .ok f ∧
      f.test ⟨"Maps", ⟨"ANA"⟩⟩ = true ∧ f.test ⟨"Maps", ⟨"Ana"⟩⟩ = false := by
  obtain ⟨part, compiled, selected, passedOver⟩ : ∃ part,
      FilterCompiler.compileProperty (c := shelf) ⟨{}, .direct⟩ .book "author.name" calledAna =
        .ok part ∧ part.test ⟨"Maps", ⟨"ANA"⟩⟩ = true ∧ part.test ⟨"Maps", ⟨"Ana"⟩⟩ = false :=
    ⟨_, rfl, rfl, rfl⟩
  refine ⟨CompiledFilter.always.both part, ?_, selected, passedOver⟩
  refine (FilterCompiler.compile_success _ _).2 ⟨[part], ?_, rfl⟩
  rw [sortedEntries_byAuthor]
  exact Outcome.mapM_cons_success.2 ⟨part, [], compiled, rfl, rfl⟩

/-- Books of some titles. -/
def byTitles : FilterMap :=
  FilterMap.empty.insert "title"
    (some { filterType := some "set", values := some [some "Maps", none] })

theorem byTitles_textless : byTitles.Textless := by
  intro path model spec listed shaped condition belongs
  have own : (path, some model) ∈ byTitles.entries := listed
  simp only [byTitles, FilterMap.insert, FilterMap.empty, List.filter_nil, List.nil_append,
    List.mem_singleton, Prod.mk.injEq, Option.some.injEq] at own
  obtain ⟨rfl, rfl⟩ := own
  cases shaped
  cases List.mem_singleton.1 belongs
  decide

/-- Settings that say one thing of one entity. -/
def caseOf (entity : ShelfEntity) (ignoreCase : Bool) : CaseSettings ShelfEntity :=
  CaseSettings.block {} entity [.ignoreCase ignoreCase]

/-- Books whose author is called as given, letter by letter: also under settings that ask for regard
of case outright, and under settings that ask for none in the texts of authors. Books of some
titles: also under settings that ask for none in the texts of books. -/
theorem shelf_settings :
    FilterCompiler.compile (c := shelf) ⟨caseOf .book false, .nullSafe⟩ .book byAuthor =
      FilterCompiler.compile (c := shelf) ⟨{}, .nullSafe⟩ .book byAuthor ∧
    (∃ f, FilterCompiler.compile (c := shelf) ⟨caseOf .author true, .direct⟩ .book byAuthor =
        .ok f ∧
      f.test ⟨"Maps", ⟨"ANA"⟩⟩ = true ∧ f.test ⟨"Maps", ⟨"Ana"⟩⟩ = false) ∧
    FilterCompiler.compile (c := shelf) ⟨caseOf .book true, .nullSafe⟩ .book byTitles =
      FilterCompiler.compile (c := shelf) ⟨{}, .nullSafe⟩ .book byTitles := by
  have agree := FilterCompiler.compile_settings (c := shelf) .book .nullSafe byAuthor
    (caseOf .book false) {}
  have apart := FilterCompiler.compile_settings (c := shelf) .book .direct byAuthor {} {}
  have textless := FilterCompiler.compile_settings (c := shelf) .book .nullSafe byTitles
    (caseOf .book true) {}
  have unseen : FilterCompiler.compile (c := shelf) ⟨caseOf .author true, .direct⟩ .book byAuthor =
      FilterCompiler.compile (c := shelf) ⟨{}, .direct⟩ .book byAuthor :=
    apart.2.1 .author [.ignoreCase true] ShelfEntity.noConfusion
  rw [unseen]
  exact ⟨agree.1 fun _ _ _ => rfl, byAuthor_compiles, textless.2.2 byTitles_textless⟩

end RowQuery
