import RowQuery.Sql.Clause

/-!
# SQL statements

A selection of rows, and its text in a dialect. Text and parameters are kept apart from the start: a
statement is first a list of pieces, each a text of the language or a parameter, and every dialect
writes a placeholder for each parameter.
-/
namespace RowQuery.Sql

inductive Dialect where
  | sqlite | postgres | mysql
  deriving DecidableEq, Repr

namespace Dialect

/-- The character around names. -/
def quote : Dialect → Char
  | sqlite | postgres => '"'
  | mysql => '\x60'

/-- The placeholder of the parameter with the given number, counted from one. -/
def placeholder : Dialect → Nat → String
  | sqlite, _ | mysql, _ => "?"
  | postgres, n => "$" ++ String.ofList (Text.numeral n)

/-- A name in quotes; a quote in the name is doubled. -/
def quoteName (d : Dialect) (name : String) : String :=
  let inner := name.toList.flatMap fun c => if c = d.quote then [c, c] else [c]
  String.ofList (d.quote :: inner ++ [d.quote])

end Dialect

inductive Direction where
  | asc | desc
  deriving DecidableEq, Repr

def Direction.keyword : Direction → String
  | asc => "ASC"
  | desc => "DESC"

/-- A selection of all columns of one table. -/
structure Select where
  table : String
  condition : Condition
  order : List (Column × Direction) := []
  /-- The number of rows to return, and the number to pass over before. -/
  window : Option (Nat × Nat) := none

/-- A piece of a statement. -/
inductive Piece where
  | text (s : String)
  | param (p : Param)
  deriving DecidableEq, Repr

namespace Piece

/-- Pieces with a text between each two groups. -/
def separated (between : String) : List (List Piece) → List Piece
  | [] => []
  | [ps] => ps
  | ps :: rest => ps ++ text between :: separated between rest

/-- The text and the parameters, the first parameter having the given number. -/
def write (d : Dialect) : (number : Nat) → List Piece → String × List Param
  | _, [] => ("", [])
  | n, text s :: rest =>
    let (sql, params) := write d n rest
    (s ++ sql, params)
  | n, param p :: rest =>
    let (sql, params) := write d (n + 1) rest
    (d.placeholder n ++ sql, p :: params)

end Piece

def Column.pieces (d : Dialect) (c : Column) : List Piece :=
  match c.table with
  | some table => [.text (d.quoteName table ++ "." ++ d.quoteName c.name)]
  | none => [.text (d.quoteName c.name)]

def Operand.pieces (d : Dialect) : Operand → List Piece
  | .column c => c.pieces d
  | .asText o => .text "CAST(" :: o.pieces d ++ [.text " AS TEXT)"]
  | .upper o => .text "UPPER(" :: o.pieces d ++ [.text ")"]

def Comparison.symbol : Comparison → String
  | .eq => "="
  | .ne => "<>"
  | .lt => "<"
  | .le => "<="
  | .gt => ">"
  | .ge => ">="

/-- A pattern with its escape character. -/
def patternPieces (pattern : String) : List Piece :=
  [.param (.text pattern), .text (" ESCAPE '" ++ likeEscape.toString ++ "'")]

def Test.pieces (d : Dialect) : Test → List Piece
  | .compare o op bound => o.pieces d ++ [.text (" " ++ Comparison.symbol op ++ " "), .param bound]
  | .like o pattern => o.pieces d ++ .text " LIKE " :: patternPieces pattern
  | .notLike o pattern => o.pieces d ++ .text " NOT LIKE " :: patternPieces pattern
  | .isNull c => c.pieces d ++ [.text " IS NULL"]
  | .isNotNull c => c.pieces d ++ [.text " IS NOT NULL"]
  | .isIn o texts =>
    o.pieces d ++ .text " IN (" ::
      Piece.separated ", " (texts.map fun s => [.param (.text s)]) ++ [.text ")"]
  | .never => [.text "1=0"]

/-- The keyword between the sides of a connective. -/
def connective : Combinator → String
  | .all => " AND "
  | .any => " OR "

def parenthesised (ps : List Piece) : List Piece := .text "(" :: ps ++ [.text ")"]

/-- Whether a clause may stand as the left side of a connective without parentheses: a test other
than the bare one that never holds, a truth value, or another clause of the same connective. -/
def Clause.bareLeft (c : Combinator) : Clause → Bool
  | .test .never => false
  | .test _ | .truth _ => true
  | .join c' _ _ => c == c'

/-- Whether a clause may stand as the right side of a connective without parentheses. -/
def Clause.bareRight : Clause → Bool
  | .test .never => false
  | .test _ | .truth _ => true
  | .join .. => false

def Clause.pieces (d : Dialect) : Clause → List Piece
  | .test t => t.pieces d
  | .truth b => [.text (if b then "TRUE" else "FALSE")]
  | .join c left right =>
    (if left.bareLeft c then left.pieces d else parenthesised (left.pieces d)) ++
      .text (connective c) ::
      (if right.bareRight then right.pieces d else parenthesised (right.pieces d))

namespace Select

def orderPieces (d : Dialect) (order : List (Column × Direction)) : List Piece :=
  if order.isEmpty then []
  else
    .text " ORDER BY " ::
      Piece.separated ", " (order.map fun (c, dir) => c.pieces d ++ [.text (" " ++ dir.keyword)])

def windowPieces : Option (Nat × Nat) → List Piece
  | none => []
  | some (limit, offset) =>
    [.text " LIMIT ", .param (.nat limit), .text " OFFSET ", .param (.nat offset)]

def pieces (d : Dialect) (s : Select) : List Piece :=
  .text ("SELECT * FROM " ++ d.quoteName s.table ++ " WHERE ") ::
    s.condition.toClause.pieces d ++ orderPieces d s.order ++ windowPieces s.window

/-- The text of a selection, and its parameters in order. -/
def write (d : Dialect) (s : Select) : String × List Param := Piece.write d 1 (s.pieces d)

end Select
end RowQuery.Sql
