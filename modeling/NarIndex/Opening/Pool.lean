import NarIndex.Configuration
import NarIndex.Sql.Dialect

/-!
# NarIndex.Opening.Pool

The sizes with which the connection pool of a store is opened.
-/

namespace NarIndex

/-- The most and the fewest connections of a pool. -/
structure Pool where
  maxConnections : UInt32
  minConnections : UInt32
  deriving DecidableEq, Repr

/-- The pool of a backend under given settings.  A pinned backend keeps its number of connections;
no pool keeps more connections idle than it may open. -/
def Pool.size (dialect : Sql.Dialect) (settings : PoolSettings) : Pool :=
  let defaults := dialect.poolDefaults
  let idle := settings.requestedIdle.getD defaults.maxIdle
  let most := if defaults.pinned then defaults.maxOpen
    else settings.requestedOpen.getD defaults.maxOpen
  ⟨most, min idle most⟩

end NarIndex
