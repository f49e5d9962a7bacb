import RowQuery.Schema.Basic

/-!
# Case settings

Text filters tell capital from small letters unless the settings of their entity say otherwise, for
all its properties or for single ones. Settings are built in blocks of calls, each block for one
entity; the blocks of one entity add up, and of two calls on one thing the later counts.

What is set is held in finite maps: lists of entries, the newest first and each key once. Their
meaning is `Assoc.get?`; the lemma says how an entry changes it.
-/
namespace RowQuery

/-! ## Finite maps -/

/-- A finite map, as the list of its entries. -/
abbrev Assoc (α β : Type) := List (α × β)

namespace Assoc
variable {α β : Type} [DecidableEq α]

def get? (m : Assoc α β) (a : α) : Option β := (m.find? fun entry => entry.1 == a).map (·.2)

/-- The map with a new entry in place of any older one of the same key. -/
def put (m : Assoc α β) (a : α) (b : β) : Assoc α β := (a, b) :: m.filter fun entry => entry.1 != a

theorem get?_put (m : Assoc α β) (a a' : α) (b : β) :
    (m.put a b).get? a' = if a' = a then some b else m.get? a' := by
  unfold get? put
  by_cases h : a' = a
  · simp [h]
  · have apart : (a == a') = false := by simp [Ne.symm h]
    simp only [List.find?_cons, if_neg h, apart, List.find?_filter]
    congr 2
    funext entry
    by_cases he : entry.1 = a' <;> simp [he, h]

end Assoc

/-! ## Settings -/

/-- What is set for one entity. Properties are keyed by the small-letter form of their path. -/
structure EntityCase where
  ignoreCase : Option Bool := none
  properties : Assoc String Bool := []
  deriving DecidableEq, Repr

inductive CaseCall where
  | ignoreCase (flag : Bool)
  | property (path : String) (flag : Bool)
  deriving DecidableEq, Repr

def EntityCase.apply (e : EntityCase) : CaseCall → EntityCase
  | .ignoreCase flag => { e with ignoreCase := some flag }
  | .property path flag => { e with properties := e.properties.put (Text.lowercase path) flag }

structure CaseSettings (Entity : Type) where
  entities : Assoc Entity EntityCase := []

namespace CaseSettings
variable {Entity : Type} [DecidableEq Entity]

/-- What is set for an entity, which is nothing at first. -/
def entity (s : CaseSettings Entity) (e : Entity) : EntityCase := (s.entities.get? e).getD {}

/-- The settings after a block of calls for one entity. -/
def block (s : CaseSettings Entity) (e : Entity) (calls : List CaseCall) : CaseSettings Entity :=
  ⟨s.entities.put e (calls.foldl EntityCase.apply (s.entity e))⟩

/-- The settings that a sequence of blocks builds. -/
def ofBlocks (blocks : List (Entity × List CaseCall)) : CaseSettings Entity :=
  blocks.foldl (fun s b => s.block b.1 b.2) {}

/-- Whether the texts of an entity are compared without regard to case, where nothing is set for the
property itself. -/
def ignoresCase (s : CaseSettings Entity) (e : Entity) : Bool := (s.entity e).ignoreCase.getD false

/-- Whether the texts of a property are compared without regard to case. -/
def ignoresCaseAt (s : CaseSettings Entity) (e : Entity) (path : String) : Bool :=
  ((s.entity e).properties.get? (Text.lowercase path)).getD (s.ignoresCase e)

/-- The flag of a property, or of a whole entity. -/
def flag (s : CaseSettings Entity) (e : Entity) : Option String → Bool
  | some path => s.ignoresCaseAt e path
  | none => s.ignoresCase e

end CaseSettings
end RowQuery
