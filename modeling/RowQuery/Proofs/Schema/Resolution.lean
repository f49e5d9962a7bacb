import RowQuery.Schema.Path
import RowQuery.Proofs.Outcome

/-!
# Where paths lead

A path leads from an entity to a property when all its segments but the last name links, one after
another, and the last names a value. Resolution finds exactly these properties; what holds of every
resolved property is proved by induction over the links that lead to it.
-/
namespace RowQuery
open Outcome

namespace Catalog
variable {c : Catalog} {mode : AccessMode}

/-- The segments lead from the entity to the property. -/
inductive Leads (c : Catalog) (mode : AccessMode) :
    (e : c.Entity) → List String → ResolvedProperty (c.Row e) → Prop where
  | required {e : c.Entity} {segment : String} {q : Property c.Row (c.Row e)} {τ : ValueType}
      {get : c.Row e → τ.Carrier} (found : (c.schema e).find? segment = some q)
      (kind : q.kind = .required τ get) :
      Leads c mode e [segment] ⟨q.name, τ, false, fun row => some (get row), ⟨none, q.column⟩⟩
  | optional {e : c.Entity} {segment : String} {q : Property c.Row (c.Row e)} {τ : ValueType}
      {get : c.Row e → Option τ.Carrier} (found : (c.schema e).find? segment = some q)
      (kind : q.kind = .optional τ get) :
      Leads c mode e [segment] ⟨q.name, τ, true, get, ⟨none, q.column⟩⟩
  | link {e target : c.Entity} {segment : String} {rest : List String}
      {q : Property c.Row (c.Row e)} {get : c.Row e → c.Row target}
      {inner : ResolvedProperty (c.Row target)} (found : (c.schema e).find? segment = some q)
      (kind : q.kind = .link target get) (beyond : Leads c mode target rest inner) :
      Leads c mode e (segment :: rest)
        (inner.across q.name q.column false fun row => some (get row))
  | optionalLink {e target : c.Entity} {segment : String} {rest : List String}
      {q : Property c.Row (c.Row e)} {get : c.Row e → Option (c.Row target)}
      {inner : ResolvedProperty (c.Row target)} (found : (c.schema e).find? segment = some q)
      (kind : q.kind = .optionalLink target get) (safe : mode ≠ .direct)
      (beyond : Leads c mode target rest inner) :
      Leads c mode e (segment :: rest) (inner.across q.name q.column true get)

theorem leads_of_resolveSegments {path : String} {e : c.Entity} {segments : List String}
    {p : ResolvedProperty (c.Row e)}
    (resolved : c.resolveSegments path mode e segments = .ok p) : Leads c mode e segments p := by
  induction segments generalizing e with
  | nil => cases resolved
  | cons segment rest ih =>
    rw [resolveSegments] at resolved
    split at resolved
    · cases resolved
    · rename_i q found
      -- One case for each kind of property, at the end of the path or before it.
      split at resolved
      · cases resolved
      · cases resolved
      · rename_i kind
        cases resolved
        exact .required found kind
      · rename_i kind
        cases resolved
        exact .optional found kind
      · cases resolved
      · cases resolved
      · rename_i kind
        obtain ⟨inner, beyond, same⟩ := bind_success.1 resolved
        cases pure_success.1 same
        exact .link found kind (ih beyond)
      · rename_i kind
        split at resolved
        · cases resolved
        · rename_i safe
          obtain ⟨inner, beyond, same⟩ := bind_success.1 resolved
          cases pure_success.1 same
          exact .optionalLink found kind safe (ih beyond)

theorem Leads.ne_nil {e : c.Entity} {segments : List String} {p : ResolvedProperty (c.Row e)}
    (leads : Leads c mode e segments p) : segments ≠ [] := by
  cases leads <;> exact List.cons_ne_nil _ _

theorem resolveSegments_of_leads (path : String) {e : c.Entity} {segments : List String}
    {p : ResolvedProperty (c.Row e)} (leads : Leads c mode e segments p) :
    c.resolveSegments path mode e segments = .ok p := by
  induction leads with
  | required found kind => simp only [resolveSegments, found, kind]
  | optional found kind => simp only [resolveSegments, found, kind]
  | @link e target segment rest q get inner found kind beyond ih =>
    obtain ⟨next, others, rfl⟩ := List.exists_cons_of_ne_nil beyond.ne_nil
    rw [resolveSegments]
    simp only [found, kind, ih]
    rfl
  | @optionalLink e target segment rest q get inner found kind safe beyond ih =>
    obtain ⟨next, others, rfl⟩ := List.exists_cons_of_ne_nil beyond.ne_nil
    rw [resolveSegments]
    simp only [found, kind, if_neg safe, ih]
    rfl

/-- Resolution finds exactly the properties to which paths lead. -/
theorem resolve_success {e : c.Entity} {path : String} {p : ResolvedProperty (c.Row e)} :
    c.resolve e path mode = .ok p ↔ Leads c mode e (pathSegments path) p :=
  ⟨leads_of_resolveSegments, resolveSegments_of_leads path⟩

end Catalog
end RowQuery
