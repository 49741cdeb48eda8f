import ShortLink.Json.Value

/-!
# Links and tenants

A link is stored under its code, with its URL relative to the base of its tenant when it lies under
it. A tenant has a name and may have a base URL. Both have a written form in JSON: an object with
the fields in order, whose reader takes them in any order, ignores other members, and accepts an
array of all fields as well.

## Main definitions

- `LinkRecord`, `Tenant` — what is stored
- `LinkRecord.toJson`, `LinkRecord.ofJson?`, `Tenant.toJson`, `Tenant.ofJson?` — the written forms
-/

namespace ShortLink

/-- A stored link. -/
structure LinkRecord where
  code : String
  /-- The URL, possibly relative to the base of the tenant. -/
  url : String
  tenant : String
  /-- Seconds since the Unix epoch. -/
  createdAt : Int64
  deriving DecidableEq

/-- A tenant. -/
structure Tenant where
  id : String
  name : String
  /-- The URL under which the tenant's links lie; empty for none. -/
  baseUrl : String
  active : Bool
  deriving DecidableEq

namespace Json

/-- The values of the named fields of a structure: of an array with exactly these fields, or of an
object that repeats none of them. -/
def fields? (names : List String) : Value → Option (List (String × Value))
  | .array items => if items.length = names.length then some (names.zip items) else none
  | .object members => do
    let named ← members.mapM fun (name, value) => name.map (·, value)
    let known := named.filter fun member => names.contains member.1
    if (known.map (·.1)).Nodup then some known else none
  | _ => none

/-- The text of a string. -/
def Value.text? : Value → Option String
  | .string s => s
  | _ => none

/-- The integer of a number, when it fits in 64 bits. -/
def Value.int64? : Value → Option Int64
  | .number n =>
    (n.filter fun n => Int64.minValue.toInt ≤ n ∧ n ≤ Int64.maxValue.toInt).map Int64.ofInt
  | _ => none

/-- The truth value of a word. -/
def Value.boolean? : Value → Option Bool
  | .boolean b => some b
  | _ => none

end Json

namespace LinkRecord

/-- The names of the fields. -/
def fieldNames : List String := ["short_code", "long_url", "tenant_id", "created_at"]

/-- The record that a text is the written form of. A missing tenant is the empty one. -/
def ofJson? (text : String) : Option LinkRecord := do
  let fields ← Json.fields? fieldNames (← Json.Value.ofText? text)
  let code ← (← fields.lookup "short_code").text?
  let url ← (← fields.lookup "long_url").text?
  let tenant ← ((fields.lookup "tenant_id").getD (.string (some ""))).text?
  let createdAt ← (← fields.lookup "created_at").int64?
  return { code, url, tenant, createdAt }

/-- The written form of a record. -/
def toJson (record : LinkRecord) : String :=
  Json.writeObject [("short_code", Json.quote record.code), ("long_url", Json.quote record.url),
    ("tenant_id", Json.quote record.tenant), ("created_at", toString record.createdAt.toInt)]

end LinkRecord

namespace Tenant

/-- The names of the fields. -/
def fieldNames : List String := ["tenant_id", "tenant_name", "base_url", "active"]

/-- The tenant that a text is the written form of. -/
def ofJson? (text : String) : Option Tenant := do
  let fields ← Json.fields? fieldNames (← Json.Value.ofText? text)
  let id ← (← fields.lookup "tenant_id").text?
  let name ← (← fields.lookup "tenant_name").text?
  let baseUrl ← (← fields.lookup "base_url").text?
  let active ← (← fields.lookup "active").boolean?
  return { id, name, baseUrl, active }

/-- The written form of a tenant. -/
def toJson (tenant : Tenant) : String :=
  Json.writeObject [("tenant_id", Json.quote tenant.id), ("tenant_name", Json.quote tenant.name),
    ("base_url", Json.quote tenant.baseUrl), ("active", toString tenant.active)]

end Tenant

end ShortLink
