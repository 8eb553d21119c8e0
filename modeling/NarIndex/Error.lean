import NarIndex.Error.Kind
import NarIndex.Text.Quoted

/-!
# NarIndex.Error

The errors of the store.  Each constructor is a cause; the wording is in `StoreError.message` and
the kind that callers branch on in `StoreError.kind`.
-/

namespace NarIndex

/-- An error of the store.  `during` names the operation that the driver error comes from. -/
inductive StoreError where
  | notFound (entity key : String)
  | duplicateKey (during : String) (source : DriverError)
  | deadlock (during : String) (source : DriverError)
  | mismatchedInputLengths (chunkIds chunkIndices : Nat)
  | unsupportedDriver (scheme : String)
  | invalidUrl (reason : String)
  | connection (target : String) (source : DriverError)
  | database (during : String) (source : DriverError)
  | nestedTransaction
  | config (reason : String)
  | io (text : String)
  | internal (text : String)
  deriving DecidableEq, Repr

namespace StoreError

/-- The wording of an error. -/
def message : StoreError → String
  | .notFound entity key => entity ++ " not found: " ++ key
  | .duplicateKey during source => during ++ ": duplicate key: " ++ source.message
  | .deadlock during source => during ++ ": deadlock or busy database: " ++ source.message
  | .mismatchedInputLengths ids indices =>
    "mismatched input lengths: " ++ toString ids ++ " chunk ids but " ++ toString indices
      ++ " chunk indices"
  | .unsupportedDriver scheme => "unsupported database driver: " ++ Text.quoted scheme
  | .invalidUrl reason => "invalid database url: " ++ reason
  | .connection target source => "failed to connect to " ++ target ++ ": " ++ source.message
  | .database during source => during ++ ": database error: " ++ source.message
  | .nestedTransaction => "a transaction is already in progress on this handle"
  | .config reason => "configuration error: " ++ reason
  | .io text => "io error: " ++ text
  | .internal text => "internal error: " ++ text

/-- The kind of an error. -/
def kind : StoreError → ErrorKind
  | .notFound .. => .notFound
  | .duplicateKey .. => .duplicateKey
  | .deadlock .. => .deadlock
  | .mismatchedInputLengths .. => .mismatchedInputLengths
  | .unsupportedDriver _ => .unsupportedDriver
  | .invalidUrl _ => .invalidUrl
  | .connection .. => .connection
  | .database _ source => (ErrorKind.ofDriver? source).getD .other
  | .nestedTransaction | .config _ | .io _ | .internal _ => .other

/-- A driver error as an error of the operation it comes from. -/
def ofDriver (during : String) (source : DriverError) : StoreError :=
  match ErrorKind.ofDriver? source with
  | some .duplicateKey => .duplicateKey during source
  | some .deadlock => .deadlock during source
  | _ => .database during source

/-- A driver error of an operation that gives it no name. -/
def ofQuery (source : DriverError) : StoreError :=
  ofDriver "query" source

def isDuplicateKey (error : StoreError) : Bool :=
  error.kind = .duplicateKey

def isNotFound (error : StoreError) : Bool :=
  error.kind = .notFound

/-- Whether an error is contention that a caller may try again after. -/
def isDeadlock (error : StoreError) : Bool :=
  error.kind = .deadlock

end StoreError

end NarIndex
