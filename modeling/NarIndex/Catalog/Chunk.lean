import NarIndex.Catalog.Readable

/-!
# NarIndex.Catalog.Chunk

A block of data that NAR files are put together from, told by its hash.
-/

namespace NarIndex

/-- A block of data; `ν` is what a column of integers holds.  Times are in microseconds. -/
structure Chunk (ν : Type) where
  id : Int
  hash : String
  size : ν
  createdAt : ν
  updatedAt : Option ν
  deriving DecidableEq, Repr

namespace Chunk

/-- The largest size of a chunk. -/
def maxSize : Int := 4294967295

instance : Catalog.Readable Chunk where
  read row := do
    let size ← Catalog.readNumber "size" maxSize row.size
    let createdAt ← Catalog.readTime "created_at" row.createdAt
    let updatedAt ← Catalog.readOptionalTime "updated_at" row.updatedAt
    return ⟨row.id, row.hash, size, createdAt, updatedAt⟩

/-- A chunk as it is when it comes in. -/
def fresh {ν : Type} (id : Int) (hash : String) (size now : ν) : Chunk ν :=
  ⟨id, hash, size, now, none⟩

end Chunk

end NarIndex
