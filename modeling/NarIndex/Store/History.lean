import NarIndex.Store.Session

/-!
# NarIndex.Store.History

What happens to a store over time: calls, blocks, transactions opened and ended by hand, and what
other connections do.  A history is a list of such events.  Patches by hand are not among them: they
are not calls of the store, and leave rows that no call leaves.
-/

namespace NarIndex.Store

/-- What happens to a store in use. -/
inductive Event where
  | call (now : Time.Timestamp) (operation : Operation)
  | block (block : Session.Block)
  | begin
  | commit
  | rollback
  /-- An attempt to end the transaction through a handle that is not the only one. -/
  | endShared
  /-- The handle of the transaction is dropped. -/
  | abandon
  | migrate
  | lock
  | unlock
  | reopen

/-- What comes back from an event: the answers of the steps within it, and its own result. -/
structure Reply where
  steps : List (Except StoreError Answer) := []
  result : Except StoreError Answer

/-- Operations called one after the other, each at its time. -/
def Event.calls (operations : List (Time.Timestamp × Operation)) : List Event :=
  operations.map fun (now, operation) => .call now operation

namespace Session

/-- The block that calls operations one after the other, up to the first that fails. -/
def Block.ofCalls (operations : List (Time.Timestamp × Operation)) : Block :=
  { steps := operations.map fun (now, operation) => (now, .call operation) }

/-- A store that has just been made. -/
def fresh (dialect : Sql.Dialect) : Session :=
  { dialect }

/-- The reply to an event that moves the handle or fails. -/
def moved (session : Session) (result : Except StoreError Session) : Reply × Session :=
  match result with
  | .ok next => ({ result := .ok .done }, next)
  | .error error => ({ result := .error error }, session)

/-- The reply to an event, and the handle after it. -/
def handle (session : Session) : Event → Reply × Session
  | .call now operation =>
    let (answer, session) := session.perform now operation
    ({ result := answer }, session)
  | .block block =>
    let ending := session.withTransaction block
    (⟨ending.answers, ending.result.map fun () => .done⟩, ending.session)
  | .begin => session.moved session.begin
  | .commit => session.moved session.commit
  | .rollback => session.moved session.rollback
  | .endShared => ({ result := .error session.endShared }, session)
  | .abandon => session.moved (.ok session.abandon)
  | .migrate => ({ result := session.migrate.map fun () => .done }, session)
  | .lock => session.moved (.ok session.lock)
  | .unlock => session.moved (.ok session.unlock)
  | .reopen => session.moved session.reopen

/-- The handle after a history. -/
def after (session : Session) (history : List Event) : Session :=
  history.foldl (fun session event => (session.handle event).2) session

/-- The replies to the events of a history, each with the tables as the handle sees them then. -/
def trace (session : Session) : List Event → List (Reply × Catalog)
  | [] => []
  | event :: history =>
    let (reply, next) := session.handle event
    (reply, next.catalog) :: next.trace history

def results (session : Session) (history : List Event) : List (Except StoreError Answer) :=
  (session.trace history).map (·.1.result)

/-- The stores in use that some history leads to. -/
inductive Reachable : Session → Prop
  | fresh (dialect : Sql.Dialect) : Reachable (fresh dialect)
  | handle {session : Session} (event : Event) :
      Reachable session → Reachable (session.handle event).2

@[simp] theorem after_cons (session : Session) (event : Event) (history : List Event) :
    session.after (event :: history) = (session.handle event).2.after history :=
  rfl

theorem after_append (session : Session) (history later : List Event) :
    session.after (history ++ later) = (session.after history).after later :=
  List.foldl_append

theorem after_calls_cons (session : Session) (now : Time.Timestamp) (operation : Operation)
    (operations : List (Time.Timestamp × Operation)) :
    session.after (Event.calls ((now, operation) :: operations))
      = (session.perform now operation).2.after (Event.calls operations) :=
  rfl

theorem results_calls_cons (session : Session) (now : Time.Timestamp) (operation : Operation)
    (operations : List (Time.Timestamp × Operation)) :
    session.results (Event.calls ((now, operation) :: operations))
      = (session.perform now operation).1
        :: (session.perform now operation).2.results (Event.calls operations) :=
  rfl

/-- A history leads from a reachable store to a reachable one. -/
theorem Reachable.after {session : Session} (h : Reachable session) (history : List Event) :
    Reachable (session.after history) := by
  induction history generalizing session with
  | nil => exact h
  | cons event history ih => exact ih (.handle event h)

end Session

end NarIndex.Store
