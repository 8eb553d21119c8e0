import NarIndex.Catalog.Readable

/-!
# NarIndex.Catalog.Setting

A value kept under a key beside the cache.
-/

namespace NarIndex

/-- A key and its value; `ν` is what a column of integers holds.  Times are in microseconds. -/
structure Setting (ν : Type) where
  id : Int
  key : String
  value : String
  createdAt : ν
  updatedAt : Option ν
  deriving DecidableEq, Repr

namespace Setting

variable {ν : Type}

instance : Catalog.Readable Setting where
  read row := do
    let createdAt ← Catalog.readTime "created_at" row.createdAt
    let updatedAt ← Catalog.readOptionalTime "updated_at" row.updatedAt
    return ⟨row.id, row.key, row.value, createdAt, updatedAt⟩

/-- A setting as it is when it comes in. -/
def fresh (id : Int) (key value : String) (now : ν) : Setting ν :=
  ⟨id, key, value, now, none⟩

def overwritten (value : String) (now : ν) (row : Setting ν) : Setting ν :=
  { row with value, updatedAt := some now }

end Setting

end NarIndex
