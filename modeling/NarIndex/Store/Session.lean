import NarIndex.Catalog.Patch
import NarIndex.Store.Change

/-!
# NarIndex.Store.Session

A store in use: the catalog, and whether a transaction is open on the handle.  A transaction keeps
the catalog it began with; rolling back returns to it, committing forgets it.  Transactions do not
nest.
-/

namespace NarIndex.Store

/-- A call of the store. -/
inductive Operation where
  | read (query : Query)
  | write (change : Change)
  deriving DecidableEq, Repr

def Operation.run (context : Context) (catalog : Catalog) : Operation → Outcome Answer
  | .read query => (query.answer context.dialect catalog, catalog)
  | .write change => change.run context catalog

/-- A store in use. -/
structure Session where
  /-- The dialect that calls are made in, which decides how they create rows.  The tables, and the
  engine whose errors come from them, are those of SQLite whichever it is. -/
  dialect : Sql.Dialect
  /-- What calls on the handle see. -/
  catalog : Catalog := {}
  /-- What the open transaction began with, if one is open. -/
  saved : Option Catalog := none
  /-- Whether another connection holds the write lock. -/
  contended : Bool := false
  deriving DecidableEq, Repr

namespace Session

def isOpen (session : Session) : Bool :=
  session.saved.isSome

/-! ## calls -/

/-- What a call on the handle meets at a time. -/
def context (session : Session) (now : Time.Timestamp) : Context :=
  ⟨session.dialect, now, session.contended, session.isOpen⟩

/-- Runs a call on the handle. -/
def perform (session : Session) (now : Time.Timestamp) (operation : Operation) :
    Except StoreError Answer × Session :=
  let (answer, catalog) := operation.run (session.context now) session.catalog
  (answer, { session with catalog })

theorem perform_fst (session : Session) (now : Time.Timestamp) (operation : Operation) :
    (session.perform now operation).1
      = (operation.run (session.context now) session.catalog).1 :=
  rfl

theorem perform_snd (session : Session) (now : Time.Timestamp) (operation : Operation) :
    (session.perform now operation).2
      = { session with catalog := (operation.run (session.context now) session.catalog).2 } :=
  rfl

/-- Makes the tables that are missing; there are none, so that nothing changes.  It does not run on
the handle, and finds no connection while a transaction has the only one. -/
def migrate (session : Session) : Except StoreError Unit :=
  if session.isOpen then .error (.ofDriver "migrate" .poolTimedOut)
  else if session.contended then .error (.ofDriver "migrate" .locked)
  else .ok ()

/-- Sets one column of one row by hand.  A statement is checked before it meets the lock. -/
def patch (session : Session) (now : Time.Timestamp) (table : String) (id : Int) (column : String)
    (cell : Catalog.Cell) : Except StoreError Answer × Session :=
  match Catalog.patch table id column cell with
  | .error error => (.error (.ofQuery error), session)
  | .ok statement =>
    let (answer, catalog) := counted (session.context now) statement session.catalog
    (answer, { session with catalog })

/-! ## transactions -/

def begin (session : Session) : Except StoreError Session :=
  if session.isOpen then .error .nestedTransaction
  else .ok { session with saved := some session.catalog }

/-- The handle after the transaction, if one is open, is dropped. -/
def abandon (session : Session) : Session :=
  match session.saved with
  | some catalog => { session with catalog, saved := none }
  | none => session

/-- Keeps what the open transaction did. -/
def commit (session : Session) : Except StoreError Session :=
  if session.isOpen then .ok { session with saved := none }
  else .error (.internal "handle is not a transaction")

/-- Takes back what the open transaction did. -/
def rollback (session : Session) : Except StoreError Session :=
  if session.isOpen then .ok session.abandon
  else .error (.internal "handle is not a transaction")

/-- Committing or rolling back through a handle that is not the only one of its transaction fails,
and leaves the transaction open. -/
def endShared (session : Session) : StoreError :=
  .internal (if session.isOpen then "transaction handle is still shared"
    else "handle is not a transaction")

/-! ## blocks -/

/-- A step of a block. -/
inductive Step where
  | call (operation : Operation)
  | begin
  deriving DecidableEq, Repr

/-- Runs a step on the handle. -/
def step (session : Session) (now : Time.Timestamp) : Step → Except StoreError Answer × Session
  | .call operation => session.perform now operation
  | .begin =>
    match session.begin with
    | .ok session => (.ok .done, session)
    | .error error => (.error error, session)

/-- Steps to run within one transaction, each with its time. -/
structure Block where
  steps : List (Time.Timestamp × Step)
  /-- What the block fails with after its last step. -/
  abort : Option String := none
  /-- Whether the block goes on after a step that fails. -/
  tolerant : Bool := false

/-- How a block has ended: the answers of the steps that were run, the result of the block, and the
handle. -/
structure Ending where
  answers : List (Except StoreError Answer)
  result : Except StoreError Unit
  session : Session

/-- Runs steps up to the first that fails, or all of them. -/
def runSteps (session : Session) (tolerant : Bool) : List (Time.Timestamp × Step) → Ending
  | [] => ⟨[], .ok (), session⟩
  | (now, step) :: steps =>
    match session.step now step with
    | (.ok answer, session) =>
      let rest := session.runSteps tolerant steps
      { rest with answers := .ok answer :: rest.answers }
    | (.error error, session) =>
      if tolerant then
        let rest := session.runSteps tolerant steps
        { rest with answers := .error error :: rest.answers }
      else ⟨[.error error], .error error, session⟩

/-- What the steps of a block come to: an error of theirs, or else that of the block. -/
def Block.verdict (block : Block) (result : Except StoreError Unit) : Except StoreError Unit :=
  match result, block.abort with
  | .ok (), some text => .error (.internal text)
  | result, _ => result

/-- Runs a block in a transaction of its own: what it did is kept if it succeeds, and taken back if
it fails. -/
def withTransaction (session : Session) (block : Block) : Ending :=
  match session.begin with
  | .error error => ⟨[], .error error, session⟩
  | .ok opened =>
    let ending := opened.runSteps block.tolerant block.steps
    match block.verdict ending.result with
    | .error error => ⟨ending.answers, .error error, ending.session.abandon⟩
    | .ok () => ⟨ending.answers, .ok (), { ending.session with saved := none }⟩

/-! ## the world outside -/

/-- Another connection takes the write lock. -/
def lock (session : Session) : Session :=
  { session with contended := true }

/-- The connection that had the write lock goes away. -/
def unlock (session : Session) : Session :=
  { session with contended := false }

/-- The store is closed and opened again. -/
def reopen (session : Session) : Except StoreError Session :=
  session.abandon.migrate.map fun () => session.abandon

end Session

end NarIndex.Store
