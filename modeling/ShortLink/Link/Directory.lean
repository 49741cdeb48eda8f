import ShortLink.Link.Record

/-!
# The directory of tenants

The directory holds tenants by their ids. A tenant put in under an id replaces the one before.

## Main definitions

- `TenantDirectory` — the tenants
- `TenantDirectory.put`, `TenantDirectory.find?`

## Main results

- `TenantDirectory.find?_put` — putting a tenant in changes what is found under one id only
-/

namespace ShortLink

/-- The tenants, the newest first. -/
structure TenantDirectory where
  tenants : List Tenant := []
  deriving DecidableEq

namespace TenantDirectory

/-- The directory with a tenant put in. -/
def put (directory : TenantDirectory) (tenant : Tenant) : TenantDirectory :=
  ⟨tenant :: directory.tenants.filter (·.id ≠ tenant.id)⟩

/-- The tenant with an id. -/
def find? (directory : TenantDirectory) (id : String) : Option Tenant :=
  directory.tenants.find? (·.id = id)

/-- A tenant put in is found under its id, and every other tenant as before. -/
theorem find?_put (directory : TenantDirectory) (tenant : Tenant) (id : String) :
    (directory.put tenant).find? id =
      if tenant.id = id then some tenant else directory.find? id := by
  by_cases h : tenant.id = id
  · simp [put, find?, h]
  · have hrest : ∀ t : Tenant, (t.id ≠ tenant.id ∧ t.id = id) ↔ t.id = id := by
      grind
    simp [put, find?, h, hrest]

end TenantDirectory

end ShortLink
