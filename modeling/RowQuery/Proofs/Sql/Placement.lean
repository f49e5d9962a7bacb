import Mathlib.Data.List.Forall2
import RowQuery.Proofs.Request.Paging

/-!
# Nulls and dialects

Sort terms are written as a column and a direction each. No term states where nulls go, so that
every database puts them at its own end. SQLite and MySQL take nulls for the smallest values, as
sorting in memory does; PostgreSQL takes them for the largest. There rows come in another order as
soon as a null parts two of them.
-/
namespace RowQuery.Sql

/-! ## Texts of sort terms -/

namespace Piece

/-- The pieces have no parameters and make up the text, whatever follows them. -/
def Spell (d : Dialect) (ps : List Piece) (s : String) : Prop :=
  ∀ n rest, write d n (ps ++ rest) = (s ++ (write d n rest).1, (write d n rest).2)

variable {d : Dialect} {ps qs : List Piece} {s t : String}

theorem Spell.nil : Spell d [] "" := by
  intro n rest
  rw [List.nil_append, String.empty_append]

theorem Spell.single (s : String) : Spell d [.text s] s := by
  intro n rest
  rw [List.singleton_append, write]

theorem Spell.append (first : Spell d ps s) (second : Spell d qs t) :
    Spell d (ps ++ qs) (s ++ t) := by
  intro n rest
  rw [List.append_assoc, first, second, String.append_assoc]

theorem Spell.write (spelt : Spell d ps s) (n : Nat) : Piece.write d n ps = (s, []) := by
  simpa [Piece.write] using spelt n []

theorem Spell.separated {groups : List (List Piece)} {texts : List String} (between : String)
    (spelt : List.Forall₂ (Spell d) groups texts) :
    Spell d (Piece.separated between groups) (between.intercalate texts) := by
  induction spelt with
  | nil => exact .nil
  | cons head tail ih =>
    cases tail with
    | nil => simpa only [Piece.separated, String.intercalate_singleton] using head
    | cons next later =>
      rw [String.intercalate_cons_cons, String.append_assoc]
      exact head.append ((single between).append ih)

end Piece

/-- A column in a dialect, behind its table if it names one. -/
def Column.text (d : Dialect) (c : Column) : String :=
  match c.table with
  | some table => d.quoteName table ++ "." ++ d.quoteName c.name
  | none => d.quoteName c.name

theorem Column.pieces_eq (d : Dialect) (c : Column) : c.pieces d = [.text (c.text d)] := by
  rw [pieces, text]
  cases c.table <;> rfl

namespace Select

/-- The text of a sort term: its column and its direction. -/
def termText (d : Dialect) (term : Column × Direction) : String :=
  term.1.text d ++ " " ++ term.2.keyword

/-- The text of the sort terms of a statement. -/
def orderText (d : Dialect) (terms : List (Column × Direction)) : String :=
  if terms.isEmpty then "" else " ORDER BY " ++ ", ".intercalate (terms.map (termText d))

theorem spell_term (d : Dialect) (term : Column × Direction) :
    Piece.Spell d (term.1.pieces d ++ [.text (" " ++ term.2.keyword)]) (termText d term) := by
  rw [Column.pieces_eq, termText, String.append_assoc]
  exact (Piece.Spell.single _).append (.single _)

/-- Sort terms are written without parameters, and state nothing but columns and directions. -/
theorem write_orderPieces (d : Dialect) (n : Nat) (terms : List (Column × Direction)) :
    Piece.write d n (orderPieces d terms) = (orderText d terms, []) := by
  rw [orderPieces, orderText]
  split
  · rfl
  · have spelt : List.Forall₂ (Piece.Spell d)
        (terms.map fun term => term.1.pieces d ++ [.text (" " ++ term.2.keyword)])
        (terms.map (termText d)) := by
      rw [List.forall₂_map_left_iff, List.forall₂_map_right_iff]
      exact List.forall₂_same.2 fun term _ => spell_term d term
    exact ((Piece.Spell.single " ORDER BY ").append (.separated ", " spelt)).write n

end Select

/-! ## Places of nulls -/

/-- Whether databases of a dialect take nulls for the smallest values or for the largest, when a
sort term does not say. -/
def Dialect.nullsSmallest : Dialect → Bool
  | sqlite | mysql => true
  | postgres => false

/-- A database of a dialect puts nulls at the dialect's end, and orders the values of one kind as
sorting does. -/
structure Engine.Sorts (db : Engine) (d : Dialect) : Prop where
  nulls : db.nullsSmallest = d.nullsSmallest
  values : db.OrdersValues

/-- The standard database with nulls at the end of the dialect. -/
def Engine.ofDialect (d : Dialect) : Engine := { standard with nullsSmallest := d.nullsSmallest }

theorem Engine.ofDialect_sorts (d : Dialect) : (ofDialect d).Sorts d where
  nulls := rfl
  values _ _ _ _ _ := rfl

end RowQuery.Sql

namespace RowQuery
open Sql (Dialect Engine Cells)

namespace Sorter
variable {R Item : Type} {s : Sorter R} {d : Dialect} {db : Engine} {cells : Item → Cells}
  {view : Item → R} {items : List Item}

/-- The terms of a sorter leave a database one way to order rows that it can read: the sorter's,
with nulls at the end where the database puts them. -/
theorem stablySorted_orderBy_iff (sorts : db.Sorts d)
    (legible : ∀ item ∈ items, ∀ k ∈ s.keys, k.Legible (cells item) (view item))
    (rows : List Item) :
    StablySorted (fun a b => db.compareRows s.orderBy (cells a) (cells b)) items rows ↔
      rows = s.sortNulls d.nullsSmallest view items := by
  have same : ∀ a ∈ items, ∀ b ∈ items, db.compareRows s.orderBy (cells a) (cells b) =
      s.compareNulls d.nullsSmallest (view a) (view b) := by
    intro a first b second
    rw [compareRows_eq sorts.values s (legible a first) (legible b second), sorts.nulls]
  have stably := s.sortNulls_stablySorted d.nullsSmallest view items
  constructor
  · intro found
    have := transCmp_on (s.compareNulls d.nullsSmallest) view
    exact (found.congr same).eq stably
  · rintro rfl
    exact stably.congr fun a first b second => (same a first b second).symm

/-- The end at which a dialect puts nulls makes a difference in PostgreSQL alone, and there as soon
as a null parts two rows. -/
theorem sortNulls_dialect_iff (s : Sorter R) (d : Dialect) (view : Item → R) (items : List Item) :
    s.sortNulls d.nullsSmallest view items = s.sort view items ↔
      d ≠ .postgres ∨ ∀ a ∈ items, ∀ b ∈ items, ¬ PartedByNull (view a) (view b) s.keys := by
  cases d with
  | postgres => simpa [Dialect.nullsSmallest] using s.sortNulls_eq_sort_iff view items
  | sqlite => simpa [Dialect.nullsSmallest] using s.sortNulls_true view items
  | mysql => simpa [Dialect.nullsSmallest] using s.sortNulls_true view items

/-- Sort terms give rows one order in each dialect. They are written as columns and directions,
which leave nulls where the dialect puts them. So the order is the sorter's with nulls there: in
SQLite and MySQL the order in memory, and in PostgreSQL this order exactly if no null parts two
rows. -/
theorem orderBy_places_nulls (s : Sorter R) (d : Dialect) :
    (∀ n, Sql.Piece.write d n (Sql.Select.orderPieces d s.orderBy) =
      (Sql.Select.orderText d s.orderBy, [])) ∧
    ∀ {Item : Type} (db : Engine) (cells : Item → Cells) (view : Item → R) (items : List Item),
      db.Sorts d →
      (∀ item ∈ items, ∀ k ∈ s.keys, k.Legible (cells item) (view item)) →
      (∀ rows, StablySorted (fun a b => db.compareRows s.orderBy (cells a) (cells b)) items rows ↔
        rows = s.sortNulls d.nullsSmallest view items) ∧
      (s.sortNulls d.nullsSmallest view items = s.sort view items ↔
        d ≠ .postgres ∨ ∀ a ∈ items, ∀ b ∈ items, ¬ PartedByNull (view a) (view b) s.keys) := by
  constructor
  · intro n
    exact Sql.Select.write_orderPieces d n s.orderBy
  · intro Item db cells view items sorts legible
    exact ⟨stablySorted_orderBy_iff sorts legible, s.sortNulls_dialect_iff d view items⟩

end Sorter

/-! ## Employees without a rated superior -/

/-- A database can read the rating of an employee's superior. -/
theorem byRatingSorter_legible {row : Employee} (listed : row ∈ [alice, bob, carol])
    {k : SortKey Employee} (member : k ∈ byRatingSorter.keys) : k.Legible row.cells row := by
  have keys : byRatingSorter.keys = [⟨superiorRating, .desc⟩] := rfl
  rw [keys] at member
  cases List.mem_singleton.1 member
  refine ⟨rfl, fun v read => ?_⟩
  have rated : v = .float ⟨false, 0⟩ := by
    simp only [List.mem_cons, List.not_mem_nil, or_false] at listed
    obtain rfl | rfl | rfl := listed
    · cases read
    · have zero : superiorRating.get bob = some (.float ⟨false, 0⟩) := by decide +kernel
      exact Option.some.inj (read.symm.trans zero)
    · cases read
  subst rated
  exact ⟨by decide, by decide +kernel, by decide⟩

/-- With nulls behind all values, they come first in descending order. -/
theorem byRatingSorter_sortNulls :
    byRatingSorter.sortNulls false id [alice, bob, carol] = [alice, carol, bob] := by
  have placed : byRatingSorter.compareNulls false alice bob = .lt := by decide +kernel
  have tied : byRatingSorter.compareNulls false alice carol = .eq := by decide +kernel
  have moved : byRatingSorter.compareNulls false bob carol = .gt := by decide +kernel
  rw [Sorter.sortNulls]
  simp [List.mergeSort, moved, tied, placed]

theorem byRatingSorter_on_postgres :
    (Engine.ofDialect .postgres).Sorts .postgres ∧
    (∀ row ∈ [alice, bob, carol], ∀ k ∈ byRatingSorter.keys, k.Legible row.cells row) ∧
    ∀ rows, StablySorted (fun a b => (Engine.ofDialect .postgres).compareRows
        byRatingSorter.orderBy a.cells b.cells) [alice, bob, carol] rows ↔
      rows = [alice, carol, bob] := by
  have sorts := Engine.ofDialect_sorts .postgres
  have legible : ∀ row ∈ [alice, bob, carol], ∀ k ∈ byRatingSorter.keys, k.Legible row.cells row :=
    fun row listed k member => byRatingSorter_legible listed member
  refine ⟨sorts, legible, fun rows => ?_⟩
  have placed := (byRatingSorter.orderBy_places_nulls .postgres).2 (.ofDialect .postgres)
    Employee.cells id [alice, bob, carol] sorts legible
  rw [placed.1 rows, Dialect.nullsSmallest, byRatingSorter_sortNulls]

/-- PostgreSQL does not give the order in memory: who has no rated superior comes first there in
descending order, and last in memory. -/
theorem byRatingSorter_not_sorted_on_postgres :
    (Engine.ofDialect .postgres).Sorts .postgres ∧
    (∀ row ∈ [alice, bob, carol], ∀ k ∈ byRatingSorter.keys, k.Legible row.cells row) ∧
    ¬ StablySorted (fun a b => (Engine.ofDialect .postgres).compareRows byRatingSorter.orderBy
        a.cells b.cells) [alice, bob, carol] (byRatingSorter.sort id [alice, bob, carol]) := by
  have sorts := Engine.ofDialect_sorts .postgres
  have legible : ∀ row ∈ [alice, bob, carol], ∀ k ∈ byRatingSorter.keys, k.Legible row.cells row :=
    fun row listed k member => byRatingSorter_legible listed member
  refine ⟨sorts, legible, fun sorted => ?_⟩
  have nulls : _ = byRatingSorter.sortNulls _ id _ :=
    (Sorter.stablySorted_orderBy_iff sorts legible _).1 sorted
  rw [byRatingSorter_sort, Dialect.nullsSmallest, byRatingSorter_sortNulls] at nulls
  have names := congrArg Employee.name (List.cons.inj nulls).1
  revert names
  decide

end RowQuery
