import Mathlib.Data.List.Induction
import RowQuery.Settings

/-!
# Settings from blocks of calls

A block of calls is built apart: when it opens, the record of its entity is taken out of the
settings, its calls change that record, and when it closes the record is put back. Throughout, every
entity has the record that the calls of its own blocks have made, in the order of these calls. Of
the calls on one thing the last one counts, therefore, in whichever block it stands.
-/
namespace RowQuery

namespace Assoc
variable {α β : Type} [DecidableEq α]

/-- The map without the entry of a key. -/
def erase (m : Assoc α β) (a : α) : Assoc α β := m.filter fun entry => entry.1 != a

theorem get?_erase_of_ne (m : Assoc α β) {a a' : α} (apart : a' ≠ a) :
    (m.erase a).get? a' = m.get? a' := by
  unfold get? erase
  rw [List.find?_filter]
  congr 2
  funext entry
  by_cases own : entry.1 = a'
  · simp [own, apart]
  · simp [own]

theorem put_erase (m : Assoc α β) (a : α) (b : β) : (m.erase a).put a b = m.put a b := by
  simp [put, erase, List.filter_filter]

end Assoc

variable {Entity : Type} [DecidableEq Entity]

/-! ## Open blocks -/

/-- A block that is open: the record of its entity, and the settings without that record. -/
structure OpenBlock (Entity : Type) where
  rest : CaseSettings Entity
  owner : Entity
  record : EntityCase

namespace OpenBlock

/-- Opens a block for an entity. -/
def ofSettings (s : CaseSettings Entity) (e : Entity) : OpenBlock Entity :=
  ⟨⟨s.entities.erase e⟩, e, s.entity e⟩

def call (b : OpenBlock Entity) (c : CaseCall) : OpenBlock Entity :=
  { b with record := b.record.apply c }

/-- Closes a block. -/
def close (b : OpenBlock Entity) : CaseSettings Entity := ⟨b.rest.entities.put b.owner b.record⟩

/-- The record of an entity while a block is open. -/
def entity (b : OpenBlock Entity) (e : Entity) : EntityCase :=
  if e = b.owner then b.record else b.rest.entity e

/-- Opening a block loses no record. -/
theorem entity_ofSettings (s : CaseSettings Entity) (owner e : Entity) :
    (ofSettings s owner).entity e = s.entity e := by
  unfold entity ofSettings
  split
  · rename_i own
    rw [own]
  · rename_i apart
    rw [CaseSettings.entity, Assoc.get?_erase_of_ne s.entities apart, CaseSettings.entity]

/-- A call changes the record of the owner and no other. -/
theorem entity_call (b : OpenBlock Entity) (c : CaseCall) (e : Entity) :
    (b.call c).entity e = if e = b.owner then (b.entity e).apply c else b.entity e := by
  unfold entity call
  split <;> rfl

theorem entity_foldl_call (b : OpenBlock Entity) (calls : List CaseCall) (e : Entity) :
    (calls.foldl call b).entity e =
      (if e = b.owner then calls else []).foldl EntityCase.apply (b.entity e) := by
  induction calls generalizing b with
  | nil => simp
  | cons c calls ih =>
    have owner : (b.call c).owner = b.owner := rfl
    rw [List.foldl_cons, ih, entity_call, owner]
    split <;> rfl

theorem entity_close (b : OpenBlock Entity) (e : Entity) : b.close.entity e = b.entity e := by
  rw [CaseSettings.entity, close, Assoc.get?_put, entity]
  split
  · rfl
  · rfl

end OpenBlock

/-! ## Sequences of blocks -/

namespace CaseSettings

/-- A block as it is built. -/
theorem block_eq_close (s : CaseSettings Entity) (e : Entity) (calls : List CaseCall) :
    s.block e calls = (calls.foldl OpenBlock.call (.ofSettings s e)).close := by
  have built : ∀ b : OpenBlock Entity, calls.foldl OpenBlock.call b =
      { b with record := calls.foldl EntityCase.apply b.record } := by
    induction calls with
    | nil => exact fun b => rfl
    | cons c calls ih => exact fun b => ih (b.call c)
  rw [built, block, OpenBlock.close, OpenBlock.ofSettings, Assoc.put_erase]

theorem entity_block (s : CaseSettings Entity) (owner e : Entity) (calls : List CaseCall) :
    (s.block owner calls).entity e =
      (if e = owner then calls else []).foldl EntityCase.apply (s.entity e) := by
  rw [block_eq_close, OpenBlock.entity_close, OpenBlock.entity_foldl_call,
    OpenBlock.entity_ofSettings]
  rfl

/-- The calls for an entity, in the order in which they are made. -/
def callsFor (e : Entity) (blocks : List (Entity × List CaseCall)) : List CaseCall :=
  (blocks.filter fun b => e = b.1).flatMap (·.2)

theorem callsFor_cons (e : Entity) (b : Entity × List CaseCall)
    (blocks : List (Entity × List CaseCall)) :
    callsFor e (b :: blocks) = (if e = b.1 then b.2 else []) ++ callsFor e blocks := by
  unfold callsFor
  by_cases own : e = b.1
  · simp [own]
  · simp [own]

theorem callsFor_filter (e : Entity) (blocks : List (Entity × List CaseCall)) :
    callsFor e (blocks.filter fun b => e = b.1) = callsFor e blocks := by
  simp [callsFor, List.filter_filter]

theorem entity_foldl_block (s : CaseSettings Entity) (blocks : List (Entity × List CaseCall))
    (e : Entity) :
    (blocks.foldl (fun s b => s.block b.1 b.2) s).entity e =
      (callsFor e blocks).foldl EntityCase.apply (s.entity e) := by
  induction blocks generalizing s with
  | nil => rfl
  | cons b blocks ih => rw [List.foldl_cons, ih, entity_block, callsFor_cons, List.foldl_append]

theorem entity_ofBlocks (blocks : List (Entity × List CaseCall)) (e : Entity) :
    (ofBlocks blocks).entity e = (callsFor e blocks).foldl EntityCase.apply {} :=
  entity_foldl_block {} blocks e

end CaseSettings

/-! ## The last call -/

namespace CaseCall

/-- The flag that a call gives to a whole entity. -/
def entityFlag? : CaseCall → Option Bool
  | ignoreCase flag => some flag
  | property _ _ => none

/-- The flag that a call gives to a property. Paths of the same small-letter form are one. -/
def flagAt? (path : String) : CaseCall → Option Bool
  | ignoreCase _ => none
  | property other flag => if Text.lowercase other = Text.lowercase path then some flag else none

/-- The flag of the last call that gives one. -/
def lastFlag? (given : CaseCall → Option Bool) (calls : List CaseCall) : Option Bool :=
  (calls.filterMap given).getLast?

theorem lastFlag?_append_singleton (given : CaseCall → Option Bool) (calls : List CaseCall)
    (c : CaseCall) : lastFlag? given (calls ++ [c]) = (given c).or (lastFlag? given calls) := by
  rw [lastFlag?, List.filterMap_append, List.getLast?_append, lastFlag?]
  cases flag : given c <;> simp [flag]

end CaseCall

namespace EntityCase
open CaseCall

theorem ignoreCase_foldl_apply (r : EntityCase) (calls : List CaseCall) :
    (calls.foldl apply r).ignoreCase = (lastFlag? entityFlag? calls).or r.ignoreCase := by
  induction calls using List.reverseRecOn with
  | nil => rfl
  | append_singleton calls c ih =>
    rw [List.foldl_append, lastFlag?_append_singleton]
    cases c with
    | ignoreCase flag => rfl
    | property path flag => exact ih

theorem get?_foldl_apply (r : EntityCase) (calls : List CaseCall) (path : String) :
    (calls.foldl apply r).properties.get? (Text.lowercase path) =
      (lastFlag? (flagAt? path) calls).or (r.properties.get? (Text.lowercase path)) := by
  induction calls using List.reverseRecOn with
  | nil => rfl
  | append_singleton calls c ih =>
    rw [List.foldl_append, lastFlag?_append_singleton]
    cases c with
    | ignoreCase flag => exact ih
    | property other flag =>
      change (((calls.foldl apply r).properties).put (Text.lowercase other) flag).get? _ = _
      rw [Assoc.get?_put, ih, flagAt?]
      by_cases same : Text.lowercase other = Text.lowercase path
      · rw [if_pos same.symm, if_pos same, Option.some_or]
        rfl
      · rw [if_neg (Ne.symm same), if_neg same, Option.none_or]

end EntityCase

namespace CaseSettings
open CaseCall

/-- Settings as a builder makes them, which opens each block, takes its calls and closes it. -/
def built (blocks : List (Entity × List CaseCall)) : CaseSettings Entity :=
  blocks.foldl (fun s b => (b.2.foldl OpenBlock.call (.ofSettings s b.1)).close) {}

theorem ofBlocks_eq_built (blocks : List (Entity × List CaseCall)) :
    ofBlocks blocks = built blocks := by
  simp only [ofBlocks, built, block_eq_close]

theorem ignoresCase_ofBlocks (blocks : List (Entity × List CaseCall)) (e : Entity) :
    (ofBlocks blocks).ignoresCase e = (lastFlag? entityFlag? (callsFor e blocks)).getD false := by
  rw [ignoresCase, entity_ofBlocks, EntityCase.ignoreCase_foldl_apply, Option.or_none]

theorem ignoresCaseAt_ofBlocks (blocks : List (Entity × List CaseCall)) (e : Entity)
    (path : String) :
    (ofBlocks blocks).ignoresCaseAt e path =
      (lastFlag? (flagAt? path) (callsFor e blocks)).getD ((ofBlocks blocks).ignoresCase e) := by
  have unset : ({} : EntityCase).properties.get? (Text.lowercase path) = none := rfl
  rw [ignoresCaseAt, entity_ofBlocks, EntityCase.get?_foldl_apply, unset, Option.or_none]

/-- The last writer wins, over all blocks of an entity. Settings are what their builder makes of the
blocks. In them the texts of a property are compared without regard to case as the last call for the
property says, which spells its path in any case; if there is none, as the last call for the entity
says; if there is none either, with regard. For the entity itself that is without the first. Blocks
of other entities do not matter. -/
theorem ofBlocks_last (blocks : List (Entity × List CaseCall)) (e : Entity) :
    ofBlocks blocks = built blocks ∧
    (∀ path, (ofBlocks blocks).ignoresCaseAt e path =
      ((lastFlag? (flagAt? path) (callsFor e blocks)).or
        (lastFlag? entityFlag? (callsFor e blocks))).getD false) ∧
    (ofBlocks blocks).ignoresCase e = (lastFlag? entityFlag? (callsFor e blocks)).getD false ∧
    (∀ path, (ofBlocks (blocks.filter fun b => e = b.1)).ignoresCaseAt e path =
      (ofBlocks blocks).ignoresCaseAt e path) ∧
    (ofBlocks (blocks.filter fun b => e = b.1)).ignoresCase e =
      (ofBlocks blocks).ignoresCase e := by
  have entity : (ofBlocks (blocks.filter fun b => e = b.1)).ignoresCase e =
      (ofBlocks blocks).ignoresCase e := by
    rw [ignoresCase_ofBlocks, ignoresCase_ofBlocks, callsFor_filter]
  refine ⟨ofBlocks_eq_built blocks, fun path => ?_, ignoresCase_ofBlocks blocks e, fun path => ?_,
    entity⟩
  · rw [ignoresCaseAt_ofBlocks, ignoresCase_ofBlocks, Option.getD_or]
  · rw [ignoresCaseAt_ofBlocks, ignoresCaseAt_ofBlocks, callsFor_filter, entity]

/-- An entity that is opened again keeps the flags that it has. -/
example :
    let s : CaseSettings Unit := ofBlocks [((), [.ignoreCase true]), ((), [.property "Code" false])]
    s.ignoresCase () = true ∧ s.ignoresCaseAt () "code" = false := by
  decide

end CaseSettings
end RowQuery
