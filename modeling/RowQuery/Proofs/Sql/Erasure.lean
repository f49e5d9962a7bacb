import RowQuery.Sql.Statement

/-!
# Statements without their bounds

Erasing a bound leaves only its type: every bound of one type becomes the same one. A statement
whose bounds are erased is written with the same text and with parameters of the same types, so that
statements which differ in nothing but bounds cannot be told apart by their texts. What a bound
holds never reaches the text.
-/
namespace RowQuery.Sql

/-- A parameter of the same type that holds nothing in particular. -/
def Param.erase : Param → Param
  | bool _ => bool false
  | int _ => int 0
  | nat _ => nat 0
  | float _ => float default
  | decimal _ => decimal default
  | text _ => text ""
  | offsetTimestamp _ => offsetTimestamp default
  | localTimestamp _ => localTimestamp default
  | date _ => date default
  | time _ => time default
  | uuid _ => uuid default

@[simp] theorem Param.typeName_erase (p : Param) : p.erase.typeName = p.typeName := by
  cases p <;> rfl

/-! ## Pieces -/

namespace Piece

def erase : Piece → Piece
  | text s => text s
  | param p => param p.erase

variable (d : Dialect)

/-- Placeholders are counted, not read: erasing what stands in their places leaves the text. -/
theorem write_erase (n : Nat) (ps : List Piece) :
    write d n (ps.map erase) = ((write d n ps).1, (write d n ps).2.map Param.erase) := by
  induction ps generalizing n with
  | nil => rfl
  | cons p ps ih =>
    cases p with
    | text s => rw [List.map_cons, erase, write, ih, write]
    | param p => rw [List.map_cons, erase, write, ih, write, List.map_cons]

theorem map_erase_separated (between : String) (groups : List (List Piece)) :
    (separated between groups).map erase = separated between (groups.map (List.map erase)) := by
  induction groups with
  | nil => rfl
  | cons group groups ih =>
    cases groups with
    | nil => rfl
    | cons next groups =>
      rw [separated, List.map_append, List.map_cons, ih]
      · rfl
      · simp

end Piece

/-! ## Tests and clauses -/

def Test.erase : Test → Test
  | compare o op bound => compare o op bound.erase
  | like o _ => like o ""
  | notLike o _ => notLike o ""
  | isIn o texts => isIn o (texts.map fun _ => "")
  | t => t

def Clause.erase : Clause → Clause
  | test t => test t.erase
  | truth b => truth b
  | join c left right => join c left.erase right.erase

section
variable (d : Dialect)

@[simp] theorem Column.map_erase_pieces (c : Column) :
    (c.pieces d).map Piece.erase = c.pieces d := by
  unfold pieces
  split <;> rfl

@[simp] theorem Operand.map_erase_pieces (o : Operand) :
    (o.pieces d).map Piece.erase = o.pieces d := by
  induction o with
  | column c => exact c.map_erase_pieces d
  | asText o ih => simp [pieces, ih, Piece.erase]
  | upper o ih => simp [pieces, ih, Piece.erase]

theorem Test.pieces_erase (t : Test) : t.erase.pieces d = (t.pieces d).map Piece.erase := by
  cases t with
  | isIn o texts =>
    simp [erase, pieces, Piece.erase, Piece.map_erase_separated, Param.erase, Function.comp_def]
  | _ => simp [erase, pieces, patternPieces, Piece.erase, Param.erase]

@[simp] theorem Clause.bareLeft_erase (c : Combinator) (clause : Clause) :
    clause.erase.bareLeft c = clause.bareLeft c := by
  cases clause with
  | test t => cases t <;> rfl
  | truth b => rfl
  | join c' left right => rfl

@[simp] theorem Clause.bareRight_erase (clause : Clause) :
    clause.erase.bareRight = clause.bareRight := by
  cases clause with
  | test t => cases t <;> rfl
  | truth b => rfl
  | join c left right => rfl

theorem map_erase_parenthesised (ps : List Piece) :
    (parenthesised ps).map Piece.erase = parenthesised (ps.map Piece.erase) := by
  simp [parenthesised, Piece.erase]

theorem Clause.pieces_erase (clause : Clause) :
    clause.erase.pieces d = (clause.pieces d).map Piece.erase := by
  induction clause with
  | test t => exact t.pieces_erase d
  | truth b => rfl
  | join c left right leftErased rightErased =>
    simp only [erase, pieces, bareLeft_erase, bareRight_erase, leftErased, rightErased,
      List.map_append, List.map_cons, apply_ite (List.map Piece.erase), map_erase_parenthesised,
      Piece.erase]

end

theorem Clause.erase_joinAll (c : Combinator) (clauses : List Clause) :
    (joinAll c clauses).erase = joinAll c (clauses.map erase) := by
  cases clauses with
  | nil => rfl
  | cons first rest =>
    rw [joinAll, List.map_cons, joinAll, List.foldl_map]
    induction rest generalizing first with
    | nil => rfl
    | cons next rest ih => exact ih (.join c first next)

/-! ## Conditions -/

namespace Condition

mutual

def erase : Condition → Condition
  | clause c => clause c.erase
  | junction c parts => junction c (eraseAll parts)

def eraseAll : List Condition → List Condition
  | [] => []
  | part :: parts => part.erase :: eraseAll parts

end

mutual

theorem toClause_erase (condition : Condition) :
    condition.erase.toClause = condition.toClause.erase := by
  cases condition with
  | clause c => rfl
  | junction c parts =>
    rw [erase, toClause, toClause, Clause.erase_joinAll, toClauses_eraseAll parts]

theorem toClauses_eraseAll (parts : List Condition) :
    toClauses (eraseAll parts) = (toClauses parts).map Clause.erase := by
  cases parts with
  | nil => rfl
  | cons part parts =>
    rw [eraseAll, toClauses, toClauses, List.map_cons, toClause_erase part,
      toClauses_eraseAll parts]

end

theorem part_erase (condition : Condition) : condition.erase.part = condition.part.erase := by
  cases condition with
  | clause c => rfl
  | junction c parts =>
    cases parts with
    | nil => rfl
    | cons first rest => cases rest <;> rfl

theorem erase_pair (c : Combinator) (left right : Condition) :
    (pair c left right).erase = pair c left.erase right.erase := by
  simp only [pair, erase, eraseAll, part_erase]

theorem erase_ofClause (c : Clause) : (ofClause c).erase = ofClause c.erase := by
  simp only [ofClause, erase, eraseAll]

end Condition

/-! ## Selections -/

namespace Select

/-- A selection with its bounds erased, those of its window among them. -/
def erase (s : Select) : Select :=
  { s with condition := s.condition.erase, window := s.window.map fun _ => (0, 0) }

variable (d : Dialect)

theorem map_erase_orderPieces (order : List (Column × Direction)) :
    (orderPieces d order).map Piece.erase = orderPieces d order := by
  unfold orderPieces
  split
  · rfl
  · simp [Piece.map_erase_separated, Piece.erase, Function.comp_def]

theorem windowPieces_erase (window : Option (Nat × Nat)) :
    windowPieces (window.map fun _ => (0, 0)) = (windowPieces window).map Piece.erase := by
  cases window <;> rfl

theorem pieces_erase (s : Select) : s.erase.pieces d = (s.pieces d).map Piece.erase := by
  simp only [pieces, erase, Condition.toClause_erase, Clause.pieces_erase, windowPieces_erase,
    List.map_append, List.map_cons, map_erase_orderPieces, Piece.erase]

/-- Erasing the bounds of a selection leaves its text and erases its parameters. -/
theorem write_erase (s : Select) :
    s.erase.write d = ((s.write d).1, (s.write d).2.map Param.erase) := by
  rw [write, write, pieces_erase, Piece.write_erase]

/-- Selections that differ only in their bounds are written with one text, and with parameters of
the same types. -/
theorem write_of_erase_eq {s t : Select} (same : s.erase = t.erase) :
    (s.write d).1 = (t.write d).1 ∧
      (s.write d).2.map Param.typeName = (t.write d).2.map Param.typeName := by
  have written := write_erase d s
  rw [same, write_erase d t, Prod.mk.injEq] at written
  obtain ⟨text, params⟩ := written
  have types := congrArg (List.map Param.typeName) params
  simp only [List.map_map, Function.comp_def, Param.typeName_erase] at types
  exact ⟨text.symm, types.symm⟩

end Select
end RowQuery.Sql
