import RowQuery.Text.Basic
import RowQuery.Text.Case

/-!
# Kinds of filters

The four kinds of conditions on a property, and the two ways of joining several.
-/
namespace RowQuery

inductive FilterKind where
  | text | date | number | set
  deriving DecidableEq, Repr

namespace FilterKind

def name : FilterKind → String
  | text => "text"
  | date => "date"
  | number => "number"
  | set => "set"

/-- The kind of the given name, whatever the case and the blanks around it. -/
def parse? (raw : String) : Option FilterKind :=
  [text, date, number, set].find? fun k => Text.asciiLowercase (Text.trim raw) == k.name

end FilterKind

inductive Combinator where
  | all | any
  deriving DecidableEq, Repr

namespace Combinator

/-- The word that joins the conditions. -/
def word : Combinator → String
  | all => "and"
  | any => "or"

/-- The combinator of the given word, whatever the case and the blanks around it. -/
def parse? (raw : String) : Option Combinator :=
  [all, any].find? fun c => Text.asciiLowercase (Text.trim raw) == c.word

end Combinator
end RowQuery
