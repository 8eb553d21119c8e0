import NarIndex.Json.Reader
import NarIndex.Text.Blank
import NarIndex.Text.Quoted

/-!
# NarIndex.Configuration

The settings with which a store is opened: the URL of the database and the sizes of the connection
pool.  They are read from JSON; a configuration that reads may still have a `Problem`.
-/

namespace NarIndex

/-! ## settings -/

/-- The sizes of a connection pool.  A size that is absent or zero is left to the backend. -/
structure PoolSettings where
  maxOpen : Option UInt32 := none
  maxIdle : Option UInt32 := none
  acquireTimeoutSeconds : UInt64 := 30
  deriving DecidableEq, Repr

/-- The most connections to open, if one is asked for. -/
def PoolSettings.requestedOpen (pool : PoolSettings) : Option UInt32 :=
  pool.maxOpen.filter (0 < ·)

/-- The idle connections to keep, if a number is asked for. -/
def PoolSettings.requestedIdle (pool : PoolSettings) : Option UInt32 :=
  pool.maxIdle.filter (0 < ·)

/-- The settings of a store. -/
structure Configuration where
  url : String
  pool : PoolSettings := {}
  deriving DecidableEq, Repr

/-! ## reading -/

/-- A field of a record: absent, it has its default; present, it has to read. -/
def fieldOr {α : Type} (default : Option α) (read : Json → Option α) : Option Json → Option α
  | none => default
  | some value => read value

/-- A number of connections, or `null`. -/
def readSize? : Json → Option (Option UInt32)
  | .null => some none
  | value => (value.count? 4294967295).map fun n => some (UInt32.ofNat n)

/-- Pool settings, all of whose fields have defaults. -/
def PoolSettings.ofJson? (value : Json) : Option PoolSettings := do
  match ← value.fields? ["max_open_conns", "max_idle_conns", "acquire_timeout_secs"] with
  | [maxOpen, maxIdle, timeout] =>
    let maxOpen ← fieldOr (some none) readSize? maxOpen
    let maxIdle ← fieldOr (some none) readSize? maxIdle
    let timeout ←
      fieldOr (some 30) (fun v => (v.count? 18446744073709551615).map UInt64.ofNat) timeout
    return ⟨maxOpen, maxIdle, timeout⟩
  | _ => none

/-- A configuration, which has to name its URL. -/
def Configuration.ofJson? (value : Json) : Option Configuration := do
  match ← value.fields? ["url", "pool"] with
  | [url, pool] =>
    let url ← fieldOr none Json.text? url
    let pool ← fieldOr (some {}) PoolSettings.ofJson? pool
    return ⟨url, pool⟩
  | _ => none

/-- The configuration that a JSON document holds. -/
def Configuration.read? (document : String) : Option Configuration := do
  Configuration.ofJson? (← Json.read? document)

/-- The pool settings that a JSON document holds. -/
def PoolSettings.read? (document : String) : Option PoolSettings := do
  PoolSettings.ofJson? (← Json.read? document)

/-! ## checking -/

/-- What can be wrong with a configuration. -/
inductive Configuration.Problem where
  | emptyUrl
  | noScheme (url : String)
  | noTimeout
  | idleAboveOpen (idle maxOpen : UInt32)
  deriving DecidableEq, Repr

/-- The wording of a problem. -/
def Configuration.Problem.message : Problem → String
  | .emptyUrl => "metadata url must not be empty"
  | .noScheme url => "metadata url " ++ Text.quoted url ++ " has no scheme"
  | .noTimeout => "pool.acquire_timeout_secs must be greater than 0"
  | .idleAboveOpen idle maxOpen =>
    "pool.max_idle_conns (" ++ toString idle ++ ") must not exceed pool.max_open_conns ("
      ++ toString maxOpen ++ ")"

/-- The first problem of a configuration: its URL is looked at before its timeout, and that before
its pool sizes. -/
def Configuration.problem? (config : Configuration) : Option Problem :=
  if (Text.trim config.url.toList).isEmpty then some .emptyUrl
  else if ':' ∉ config.url.toList then some (.noScheme config.url)
  else if config.pool.acquireTimeoutSeconds = 0 then some .noTimeout
  else match config.pool.requestedOpen, config.pool.requestedIdle with
    | some maxOpen, some idle => if maxOpen < idle then some (.idleAboveOpen idle maxOpen) else none
    | _, _ => none

end NarIndex
