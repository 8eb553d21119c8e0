import NarIndex.Proofs.Store.Edits
import NarIndex.Proofs.Store.Transaction

/-!
# NarIndex.Proofs.Store.Account

The calls that are in effect.  An account is a store in use with the calls that were made in its
run, whether they succeeded or failed, less those that were taken back with a transaction.  The
tables are at every point of every run what these calls make of empty tables, one after the other
(`Account.throughout`); so whatever calls keep, or tell of the calls before them, can be shown by
induction on such a list, and transactions have no part in it any more.
-/

namespace NarIndex.Store

/-! ## calls one after the other -/

/-- A call that was made, with what it met. -/
structure Call where
  context : Context
  operation : Operation

namespace Call

/-- What a call comes to on some tables. -/
def run (call : Call) (catalog : Catalog) : Outcome Answer :=
  call.operation.run call.context catalog

/-- The tables after calls that began with empty tables.  The last call stands first. -/
def replay : List Call → Catalog
  | [] => {}
  | call :: calls => (call.run (replay calls)).2

@[simp] theorem replay_nil : replay [] = {} :=
  rfl

@[simp] theorem replay_cons (call : Call) (calls : List Call) :
    replay (call :: calls) = (call.run (replay calls)).2 :=
  rfl

/-- A call that was made came to what one call may come to. -/
theorem run_effect (call : Call) (catalog : Catalog) :
    Catalog.Effect catalog (call.run catalog).2 :=
  call.operation.run_effect call.context catalog

/-- What calls make of empty tables is well formed. -/
theorem replay_wellFormed (calls : List Call) : (replay calls).WellFormed := by
  induction calls with
  | nil => exact .empty
  | cons call calls ih => exact (call.run_effect (replay calls)).edits.keeps .edit ih

end Call

open Call (replay)

/-! ## accounts -/

namespace Session

/-- A call on the handle. -/
def call (session : Session) (now : Time.Timestamp) (operation : Operation) : Call :=
  ⟨session.context now, operation⟩

/-- The calls after a step of a block. -/
def callsOfStep (session : Session) (calls : List Call) (now : Time.Timestamp) :
    Step → List Call
  | .call operation => session.call now operation :: calls
  | .begin => calls

/-- The calls after the steps of a block that are run. -/
def callsOfSteps (session : Session) (calls : List Call) (tolerant : Bool) :
    List (Time.Timestamp × Step) → List Call
  | [] => calls
  | (now, step) :: steps =>
    let (answer, next) := session.step now step
    let later := session.callsOfStep calls now step
    if answer.isOk || tolerant then next.callsOfSteps later tolerant steps else later

/-- The calls after a block: if it fails, all that were made in it are taken back. -/
def callsOfBlock (session : Session) (calls : List Call) (block : Block) : List Call :=
  match session.begin, (session.withTransaction block).result with
  | .ok opened, .ok () => opened.callsOfSteps calls block.tolerant block.steps
  | _, _ => calls

end Session

/-- A store in use, with the calls that are in effect; the last one stands first. -/
structure Account where
  session : Session
  calls : List Call := []
  /-- The calls that were in effect when the open transaction began. -/
  saved : List Call := []

namespace Account

/-- A store that has just been made. -/
def fresh (dialect : Sql.Dialect) : Account :=
  { session := .fresh dialect }

/-- The account after an event.  A transaction that opens keeps the calls, and one that is taken
back returns to them. -/
def handle (account : Account) (event : Event) : Account :=
  let session := account.session
  let next := (session.handle event).2
  match event with
  | .call now operation =>
    { account with session := next, calls := session.call now operation :: account.calls }
  | .block block =>
    { account with session := next, calls := session.callsOfBlock account.calls block }
  | .begin =>
    { account with
      session := next, saved := if session.isOpen then account.saved else account.calls }
  | .rollback | .abandon | .reopen =>
    { account with
      session := next
      calls := if session.isOpen && !next.isOpen then account.saved else account.calls }
  | .commit | .endShared | .migrate | .lock | .unlock => { account with session := next }

/-- The account after a history. -/
def after (account : Account) (history : List Event) : Account :=
  history.foldl handle account

/-- The account goes along with the store and does not change it. -/
theorem session_handle (account : Account) (event : Event) :
    (account.handle event).session = (account.session.handle event).2 := by
  cases event <;> rfl

/-- An account is about the very store that the history leads to. -/
theorem session_after (account : Account) (history : List Event) :
    (account.after history).session = account.session.after history := by
  induction history generalizing account with
  | nil => rfl
  | cons event history ih =>
    rw [Session.after_cons, ← session_handle]
    exact ih (account.handle event)

end Account

/-! ## what a run keeps -/

namespace Session

variable {session : Session} {calls : List Call}

/-- Tables that calls make of empty ones are well formed. -/
theorem wellFormed_of_replay (h : session.catalog = replay calls) : session.catalog.WellFormed := by
  rw [h]
  exact Call.replay_wellFormed calls

/-- A call on the handle is one more call in effect. -/
theorem replay_call (h : session.catalog = replay calls) (now : Time.Timestamp)
    (operation : Operation) :
    (session.perform now operation).2.catalog = replay (session.call now operation :: calls) := by
  rw [Call.replay_cons, ← h]
  rfl

/-- A step within a transaction is one more call in effect, if it is a call. -/
theorem step_replays (opened : session.isOpen) (h : session.catalog = replay calls)
    (now : Time.Timestamp) (step : Step) :
    (session.step now step).2.catalog = replay (session.callsOfStep calls now step) := by
  cases step with
  | call operation => exact replay_call h now operation
  | begin =>
    rw [step_begin_of_isOpen opened]
    exact h

/-- A transaction that opens leaves the tables as they are. -/
theorem begin_eq_ok {opened : Session} (h : session.begin = .ok opened) :
    opened.isOpen ∧ opened = { session with saved := some session.catalog } := by
  unfold Session.begin at h
  split at h
  · contradiction
  · cases h
    exact ⟨rfl, rfl⟩

/-- Within a transaction, the tables are at every point of a block what the calls make of empty
ones. -/
theorem runSteps_replays (opened : session.isOpen) (h : session.catalog = replay calls)
    (tolerant : Bool) (steps : List (Time.Timestamp × Step)) :
    (session.runSteps tolerant steps).session.catalog
      = replay (session.callsOfSteps calls tolerant steps) := by
  induction steps generalizing session calls with
  | nil => exact h
  | cons head steps ih =>
    obtain ⟨now, step⟩ := head
    have hlater := step_replays opened h now step
    obtain ⟨catalog, hsession⟩ := step_session opened now step
    have hopen : (session.step now step).2.isOpen := by rwa [hsession]
    rw [callsOfSteps, runSteps]
    cases hstep : session.step now step with
    | mk answer next =>
      rw [hstep] at hlater hopen
      cases answer with
      | ok answer => exact ih hopen hlater
      | error error =>
        cases tolerant with
        | true => exact ih hopen hlater
        | false => exact hlater

end Session

namespace Account

/-- The tables that the handle sees are what the calls make of empty ones, and so were those that
the open transaction began with. -/
structure Replays (account : Account) : Prop where
  calls : account.session.catalog = replay account.calls
  saved : ∀ start ∈ account.session.saved, start = replay account.saved

namespace Replays

variable {account : Account} (h : account.Replays)
include h

/-- After a block the tables are still what the calls in effect make. -/
theorem block (block : Session.Block) : (account.handle (.block block)).Replays := by
  obtain ⟨session, calls, savedCalls⟩ := account
  change Replays ⟨(session.withTransaction block).session, session.callsOfBlock calls block, _⟩
  cases hsaved : session.saved with
  | some start =>
    have hbegin : session.begin = .error .nestedTransaction :=
      Session.begin_of_isOpen (by rw [Session.isOpen, hsaved, Option.isSome_some])
    rw [Session.callsOfBlock, Session.withTransaction, hbegin]
    exact h
  | none =>
    have hsteps := @Session.runSteps_replays (session.within session.catalog) calls rfl h.calls
      block.tolerant block.steps
    rw [Session.callsOfBlock, Session.begin_of_plain hsaved,
      Session.withTransaction_of_plain hsaved]
    cases block.verdict ((session.within session.catalog).runSteps block.tolerant
        block.steps).result with
    | error error => exact h
    | ok done =>
      refine ⟨hsteps, ?_⟩
      rintro start ⟨⟩

/-- Every event keeps that the tables are what the calls make of empty ones.  Where a transaction
opens or ends, the tables are kept, forgotten or returned to, and so are the calls. -/
theorem handle (event : Event) : (account.handle event).Replays := by
  cases event with
  | call now operation => exact ⟨Session.replay_call h.calls now operation, h.saved⟩
  | block block => exact h.block block
  | begin | commit | rollback | endShared | abandon | migrate | lock | unlock | reopen =>
    obtain ⟨⟨dialect, catalog, saved, contended⟩, calls, savedCalls⟩ := account
    obtain ⟨hcalls, hsaved⟩ := h
    cases saved <;> cases contended <;> constructor <;>
      simp_all [Account.handle, Session.handle, Session.moved, Session.begin, Session.commit,
        Session.rollback, Session.abandon, Session.reopen, Session.migrate, Session.lock,
        Session.unlock, Session.isOpen, Except.map]

end Replays

/-- So they are after every run. -/
theorem replays_after {account : Account} (h : account.Replays) (history : List Event) :
    (account.after history).Replays := by
  induction history generalizing account with
  | nil => exact h
  | cons event history ih => exact ih (h.handle event)

theorem replays_fresh (dialect : Sql.Dialect) : (fresh dialect).Replays :=
  ⟨rfl, nofun⟩

/-- After every history, the tables are what the calls in effect make of empty ones. -/
theorem replays (dialect : Sql.Dialect) (history : List Event) :
    ((fresh dialect).after history).Replays :=
  replays_after (replays_fresh dialect) history

/-- What is true wherever the tables are what the calls in effect make of empty ones is true after
every history, and also within the blocks of a history, after any of their steps. -/
theorem throughout {P : Session → List Call → Prop}
    (h : ∀ session calls, session.catalog = replay calls → P session calls)
    (dialect : Sql.Dialect) (history : List Event) :
    let account := (fresh dialect).after history
    account.session = (Session.fresh dialect).after history ∧ P account.session account.calls ∧
      ∀ opened tolerant steps, account.session.begin = .ok opened →
        P (opened.runSteps tolerant steps).session
          (opened.callsOfSteps account.calls tolerant steps) := by
  intro account
  have hreplays := (replays dialect history).calls
  refine ⟨(fresh dialect).session_after history, h _ _ hreplays, ?_⟩
  intro opened tolerant steps hopened
  obtain ⟨hopen, rfl⟩ := Session.begin_eq_ok hopened
  exact h _ _ (Session.runSteps_replays hopen hreplays tolerant steps)

end Account

end NarIndex.Store
