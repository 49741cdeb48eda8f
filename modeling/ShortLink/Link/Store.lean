import ShortLink.Fault
import ShortLink.Link.Record

/-!
# The store of links

The store holds the records of links. The first record under a code stays: a second one is refused.

## Main definitions

- `LinkStore` — the records, no two of which have the same code
- `LinkStore.find?`, `LinkStore.insert`, `LinkStore.size`

## Main results

- `LinkStore.find?_insert` — an insertion changes what is found under one code only
- `LinkStore.exists_insert_iff` — a record is refused exactly when its code is taken
-/

namespace ShortLink

/-- The records of links, the newest first. -/
structure LinkStore where
  records : List LinkRecord := []
  /-- No two records have the same code. -/
  nodup_codes : (records.map LinkRecord.code).Nodup := by simp
  deriving DecidableEq

namespace LinkStore

/-- The record under a code. -/
def find? (store : LinkStore) (code : String) : Option LinkRecord :=
  store.records.find? (·.code = code)

/-- The store with a new record, when its code is free. -/
def insert (store : LinkStore) (record : LinkRecord) : Except Fault LinkStore :=
  if h : record.code ∈ store.records.map LinkRecord.code then
    .error (.store ("duplicate short code " ++ record.code))
  else .ok ⟨record :: store.records, List.nodup_cons.mpr ⟨h, store.nodup_codes⟩⟩

/-- How many records there are. -/
def size (store : LinkStore) : Nat := store.records.length

/-- A new record is found under its code, and every other record as before. -/
theorem find?_insert {store after : LinkStore} {record : LinkRecord}
    (h : store.insert record = .ok after) (code : String) :
    after.find? code = if record.code = code then some record else store.find? code := by
  unfold insert at h
  split at h
  · cases h
  · cases h
    by_cases hc : record.code = code <;> simp [find?, hc]

/-- A record is inserted exactly when nothing is stored under its code. -/
theorem exists_insert_iff {store : LinkStore} {record : LinkRecord} :
    (∃ after, store.insert record = .ok after) ↔ store.find? record.code = none := by
  unfold insert find?
  split <;> rename_i h <;> simpa using h

end LinkStore

end ShortLink
