import Mathlib.Control.Monad.Basic
import NarIndex.Proofs.Store.Outcome
import NarIndex.Store.History

/-!
# NarIndex.Proofs.Store.Transaction

Blocks are all or nothing, and otherwise transparent.  A call that joins a transaction differs from
the same call on a plain handle in one way: what it did before it failed stays, and is left to the
owner of the transaction (`Change.run_within`).  A block that stops at the first failure never goes
on from such a catalog, so that its steps run as they would on the plain handle; and once it has
failed, the owner returns to the catalog that the transaction began with.
-/

namespace NarIndex.Store

/-! ## calls that join a transaction -/

/-- Two outcomes agree, but for what is left behind by a failure. -/
def Outcome.Agrees {α : Type} (a b : Outcome α) : Prop :=
  a.1 = b.1 ∧ ∀ answer, b.1 = .ok answer → a.2 = b.2

namespace Outcome.Agrees

variable {α β : Type} {a b : Outcome α}

theorem refl (a : Outcome α) : a.Agrees a :=
  ⟨rfl, fun _ _ => rfl⟩

theorem map (h : a.Agrees b) (f : α → β) : (a.map f).Agrees (b.map f) := by
  refine ⟨by rw [Outcome.map, Outcome.map, h.1], ?_⟩
  intro answer hb
  cases hr : b.1 with
  | ok value => exact h.2 value hr
  | error error => simp [Outcome.map, hr, Except.map] at hb

end Outcome.Agrees

/-- What the same call meets within a transaction. -/
def Context.within (context : Context) : Context :=
  { context with joined := true }

/-- Joining a transaction changes nothing but what a failure leaves. -/
theorem Context.atomically_within {α : Type} (context : Context) (call : Catalog → Outcome α)
    (catalog : Catalog) :
    (context.within.atomically call catalog).Agrees (context.atomically call catalog) := by
  unfold Context.atomically
  split
  · exact .refl _
  · exact ⟨rfl, fun answer h => by simp at h⟩

/-- Within a transaction a list is added as it is without, unless it fails. -/
theorem addInBatches_within {α : Type} (context : Context) (during : String)
    (add : α → Catalog → Except DriverError Catalog) (links : List α) (catalog : Catalog) :
    (addInBatches context.within during add links catalog).Agrees
      (addInBatches context during add links catalog) := by
  have hlock : context.within.contended = context.contended := rfl
  unfold addInBatches
  rw [funext (Context.writeAll_congr hlock during _)]
  exact context.atomically_within _ catalog

/-- A call that writes does the same within a transaction, but for what a failure leaves. -/
theorem Change.run_within (context : Context) (change : Change) (catalog : Catalog) :
    (change.run context.within catalog).Agrees (change.run context catalog) := by
  cases change with
  | addReferences narInfo references => exact (addInBatches_within ..).map _
  | addSignatures narInfo signatures => exact (addInBatches_within ..).map _
  | linkFileToChunks narFile chunks indices =>
    refine Outcome.Agrees.map ?_ _
    unfold Store.linkFileToChunks
    split
    · exact .refl _
    · exact addInBatches_within ..
  | _ => exact .refl _

/-- Within a transaction every call answers as it does without. -/
theorem Operation.run_within (context : Context) (operation : Operation) (catalog : Catalog) :
    (operation.run context.within catalog).Agrees (operation.run context catalog) := by
  cases operation with
  | read query => exact .refl _
  | write change => exact change.run_within context catalog

namespace Session

/-! ## the handle of a transaction -/

/-- The handle within a transaction that began with a catalog. -/
def within (start : Catalog) (session : Session) : Session :=
  { session with saved := some start }

/-- A call answers the same within a transaction, and if it succeeds, it does the same. -/
theorem perform_within (session : Session) (start : Catalog) (now : Time.Timestamp)
    (operation : Operation) :
    ((session.within start).perform now operation).1 = (session.perform now operation).1 ∧
      ∀ answer, (session.perform now operation).1 = .ok answer →
        ((session.within start).perform now operation).2
          = (session.perform now operation).2.within start := by
  have h := operation.run_within (session.context now) session.catalog
  refine ⟨h.1, ?_⟩
  intro answer hok
  have hcatalog := h.2 answer hok
  rw [perform_snd, perform_snd, within, ← hcatalog]
  rfl

/-- A handle on which a transaction is open does not open another one. -/
theorem begin_of_isOpen {session : Session} (h : session.isOpen) :
    session.begin = .error .nestedTransaction := by
  rw [Session.begin, if_pos h]

/-- Transactions do not nest. -/
theorem step_begin_of_isOpen {session : Session} (h : session.isOpen) (now : Time.Timestamp) :
    session.step now .begin = (.error .nestedTransaction, session) := by
  rw [step, begin_of_isOpen h]

/-- A step within a transaction changes nothing but the tables. -/
theorem step_session {session : Session} (h : session.isOpen) (now : Time.Timestamp)
    (step : Step) : ∃ catalog, (session.step now step).2 = { session with catalog } := by
  cases step with
  | call operation => exact ⟨_, rfl⟩
  | begin => exact ⟨session.catalog, by rw [step_begin_of_isOpen h]⟩

/-- Steps within a transaction change nothing but the tables; above all, not the catalog that the
transaction began with. -/
theorem runSteps_session {session : Session} (h : session.isOpen) (tolerant : Bool)
    (steps : List (Time.Timestamp × Step)) :
    ∃ catalog, (session.runSteps tolerant steps).session = { session with catalog } := by
  induction steps generalizing session with
  | nil => exact ⟨session.catalog, rfl⟩
  | cons head steps ih =>
    obtain ⟨now, step⟩ := head
    obtain ⟨between, hstep⟩ := step_session h now step
    have hrest : ∃ catalog, ((session.step now step).2.runSteps tolerant steps).session
        = { session with catalog } := by
      rw [hstep]
      exact @ih { session with catalog := between } h
    rw [runSteps]
    split
    · next answer next heq =>
      rw [heq] at hrest
      exact hrest
    · next error next heq =>
      rw [heq] at hrest hstep
      split
      · exact hrest
      · exact ⟨between, hstep⟩

/-! ## blocks -/

/-- A transaction begins with what the handle sees. -/
@[simp] theorem begin_of_plain {session : Session} (plain : session.saved = none) :
    session.begin = .ok (session.within session.catalog) := by
  simp [Session.begin, isOpen, plain, within]

/-- Whatever a transaction has done to the tables, a handle that drops it is as it was before. -/
theorem abandon_within {session : Session} (plain : session.saved = none) (catalog : Catalog) :
    abandon { session.within session.catalog with catalog } = session := by
  obtain ⟨dialect, before, saved, contended⟩ := session
  cases plain
  rfl

/-- Committing forgets the catalog that the transaction began with. -/
theorem commit_within {session : Session} (plain : session.saved = none) (start : Catalog) :
    { session.within start with saved := none } = session := by
  obtain ⟨dialect, catalog, saved, contended⟩ := session
  cases plain
  rfl

/-- What a block on a plain handle comes to: its steps run within a transaction, and if the block
fails, the handle is as it was before. -/
theorem withTransaction_of_plain {session : Session} (plain : session.saved = none)
    (block : Block) :
    let closure := (session.within session.catalog).runSteps block.tolerant block.steps
    session.withTransaction block =
      match block.verdict closure.result with
      | .error error => ⟨closure.answers, .error error, session⟩
      | .ok () => ⟨closure.answers, .ok (), { closure.session with saved := none }⟩ := by
  intro closure
  obtain ⟨catalog, hsession⟩ := @runSteps_session (session.within session.catalog) rfl
    block.tolerant block.steps
  rw [withTransaction, begin_of_plain plain]
  change (match block.verdict closure.result with
    | .error error => (⟨closure.answers, .error error, closure.session.abandon⟩ : Ending)
    | .ok () => ⟨closure.answers, .ok (), { closure.session with saved := none }⟩) = _
  rw [show closure.session.abandon = session by rw [hsession, abandon_within plain]]

/-! ## blocks of calls -/

/-- Every call of a list succeeds when they are called one after the other on the handle. -/
def AllSucceed (session : Session) (operations : List (Time.Timestamp × Operation)) : Prop :=
  ∀ result ∈ session.results (Event.calls operations), result.isOk

/-- Of the calls of a list, called one after the other on the handle, the first that fails does so
with this error. -/
def FirstFailure (session : Session) (operations : List (Time.Timestamp × Operation))
    (error : StoreError) : Prop :=
  ∃ before now operation rest, operations = before ++ (now, operation) :: rest ∧
    session.AllSucceed before ∧
    ((session.after (Event.calls before)).perform now operation).1 = .error error

/-- Calls neither open nor end a transaction. -/
theorem saved_after_calls (session : Session) (operations : List (Time.Timestamp × Operation)) :
    (session.after (Event.calls operations)).saved = session.saved := by
  induction operations generalizing session with
  | nil => rfl
  | cons head operations ih => exact ih (session.perform head.1 head.2).2

theorem allSucceed_nil (session : Session) : session.AllSucceed [] := by
  simp [AllSucceed, results, Event.calls, trace]

theorem allSucceed_cons {session : Session} {now : Time.Timestamp} {operation : Operation}
    {operations : List (Time.Timestamp × Operation)} :
    session.AllSucceed ((now, operation) :: operations) ↔
      (∃ answer, (session.perform now operation).1 = .ok answer) ∧
        (session.perform now operation).2.AllSucceed operations := by
  rw [AllSucceed, results_calls_cons, List.forall_mem_cons]
  cases (session.perform now operation).1 <;> simp [AllSucceed, Except.isOk, Except.toBool]

/-- Either all calls of a list succeed, or there is a first one that fails. -/
theorem allSucceed_or_firstFailure (session : Session)
    (operations : List (Time.Timestamp × Operation)) :
    session.AllSucceed operations ∨ ∃ error, session.FirstFailure operations error := by
  induction operations generalizing session with
  | nil => exact .inl session.allSucceed_nil
  | cons head operations ih =>
    obtain ⟨now, operation⟩ := head
    cases hfirst : (session.perform now operation).1 with
    | error error =>
      exact .inr ⟨error, [], now, operation, operations, rfl, allSucceed_nil _, hfirst⟩
    | ok answer =>
      rcases ih (session.perform now operation).2 with
        hall | ⟨error, before, t, failing, rest, hsplit, hbefore, hfails⟩
      · exact .inl (allSucceed_cons.2 ⟨⟨answer, hfirst⟩, hall⟩)
      · refine .inr ⟨error, (now, operation) :: before, t, failing, rest, ?_, ?_, hfails⟩
        · rw [hsplit, List.cons_append]
        · exact allSucceed_cons.2 ⟨⟨answer, hfirst⟩, hbefore⟩

/-- As long as calls succeed, a block of them does within a transaction what they do one by one on
the plain handle. -/
theorem runSteps_of_allSucceed {session : Session} (start : Catalog)
    {operations : List (Time.Timestamp × Operation)} (h : session.AllSucceed operations)
    (more : List (Time.Timestamp × Step)) :
    (session.within start).runSteps false ((Block.ofCalls operations).steps ++ more) =
      let rest := ((session.after (Event.calls operations)).within start).runSteps false more
      { rest with answers := session.results (Event.calls operations) ++ rest.answers } := by
  induction operations generalizing session with
  | nil => rfl
  | cons head operations ih =>
    obtain ⟨now, operation⟩ := head
    obtain ⟨⟨answer, hok⟩, hrest⟩ := allSucceed_cons.1 h
    obtain ⟨hanswer, hsession⟩ := session.perform_within start now operation
    have hstep : (session.within start).step now (.call operation)
        = (.ok answer, (session.perform now operation).2.within start) :=
      Prod.ext (hanswer.trans hok) (hsession answer hok)
    have hcons : (Block.ofCalls ((now, operation) :: operations)).steps ++ more
        = (now, .call operation) :: ((Block.ofCalls operations).steps ++ more) := rfl
    rw [hcons, runSteps, hstep]
    simp only [ih hrest, results_calls_cons, hok, List.cons_append]
    rfl

/-- A block stops at the first call that fails, with the error that the call has on the plain
handle. -/
theorem runSteps_of_firstFailure {session : Session} (start : Catalog)
    {operations : List (Time.Timestamp × Operation)} {error : StoreError}
    (h : session.FirstFailure operations error) :
    ((session.within start).runSteps false (Block.ofCalls operations).steps).result
      = .error error := by
  obtain ⟨before, now, operation, rest, rfl, hbefore, hfails⟩ := h
  have happend : (Block.ofCalls (before ++ (now, operation) :: rest)).steps
      = (Block.ofCalls before).steps ++ (now, .call operation) :: (Block.ofCalls rest).steps := by
    simp [Block.ofCalls]
  have hanswer := ((session.after (Event.calls before)).perform_within start now operation).1
  rw [happend, runSteps_of_allSucceed start hbefore, runSteps]
  simp only [step]
  split
  · next answer next heq =>
    rw [heq, hfails] at hanswer
    contradiction
  · next failure next heq =>
    rw [heq, hfails] at hanswer
    simpa using hanswer

/-- A block on a plain handle that fails leaves the handle as it was. -/
theorem withTransaction_of_verdict {session : Session} (plain : session.saved = none)
    {block : Block} {error : StoreError}
    (h : block.verdict
      ((session.within session.catalog).runSteps block.tolerant block.steps).result
        = .error error) :
    (session.withTransaction block).result = .error error ∧
      (session.withTransaction block).session = session := by
  rw [withTransaction_of_plain plain, h]
  exact ⟨rfl, rfl⟩

/-- A block of calls that all succeed on the plain handle has their answers, and leaves what they
leave. -/
theorem withTransaction_of_allSucceed {session : Session} (plain : session.saved = none)
    {operations : List (Time.Timestamp × Operation)} (h : session.AllSucceed operations) :
    session.withTransaction (.ofCalls operations)
      = ⟨session.results (Event.calls operations), .ok (),
          session.after (Event.calls operations)⟩ := by
  have hsteps := runSteps_of_allSucceed session.catalog h []
  rw [List.append_nil] at hsteps
  have hafter : (session.after (Event.calls operations)).saved = none :=
    (session.saved_after_calls operations).trans plain
  rw [withTransaction_of_plain plain, show (Block.ofCalls operations).tolerant = false from rfl,
    hsteps]
  change Ending.mk (session.results (Event.calls operations) ++ []) _
    { (session.after (Event.calls operations)).within session.catalog with saved := none } = _
  rw [List.append_nil, commit_within hafter]

/-- A block of calls of which one fails on the plain handle has the error of the first that does,
and leaves the handle as it was. -/
theorem withTransaction_of_firstFailure {session : Session} (plain : session.saved = none)
    {operations : List (Time.Timestamp × Operation)} {error : StoreError}
    (h : session.FirstFailure operations error) :
    (session.withTransaction (.ofCalls operations)).result = .error error ∧
      (session.withTransaction (.ofCalls operations)).session = session := by
  refine withTransaction_of_verdict plain ?_
  rw [show (Block.ofCalls operations).tolerant = false from rfl,
    runSteps_of_firstFailure session.catalog h]
  rfl

/-- A block on a plain handle is all or nothing, and otherwise transparent.

* A block that stops at the first failure succeeds just when all its calls succeed one by one on
  the plain handle.  Then it has their answers, and leaves what they leave.
* If one of the calls fails, the block fails with the error of the first that does, and the handle
  is as it was before.  So it is after any block that fails, whatever its steps are, whether it goes
  on after failures or not, and also if only its own verdict fails it.
* No further transaction is opened on the handle of a transaction, neither by hand nor by a step nor
  by a block; the attempt changes nothing. -/
theorem withTransaction_all_or_nothing {session : Session} (plain : session.saved = none) :
    (∀ operations,
      let ending := session.withTransaction (.ofCalls operations)
      (ending.result = .ok () ↔ session.AllSucceed operations) ∧
        (session.AllSucceed operations →
          ending.answers = session.results (Event.calls operations) ∧
            ending.session = session.after (Event.calls operations)) ∧
        ∀ error, session.FirstFailure operations error →
          ending.result = .error error ∧ ending.session = session) ∧
    (∀ block error,
      block.verdict ((session.within session.catalog).runSteps block.tolerant block.steps).result
          = .error error →
        (session.withTransaction block).result = .error error ∧
          (session.withTransaction block).session = session) ∧
    ∀ opened : Session, opened.isOpen →
      opened.begin = .error .nestedTransaction ∧
        (∀ now, opened.step now .begin = (.error .nestedTransaction, opened)) ∧
        ∀ block, opened.withTransaction block = ⟨[], .error .nestedTransaction, opened⟩ := by
  refine ⟨?_, fun block error => withTransaction_of_verdict plain, ?_⟩
  · intro operations ending
    have hok : session.AllSucceed operations → ending
        = ⟨session.results (Event.calls operations), .ok (),
            session.after (Event.calls operations)⟩ := withTransaction_of_allSucceed plain
    have herror : ∀ error, session.FirstFailure operations error →
        ending.result = .error error ∧ ending.session = session :=
      fun error => withTransaction_of_firstFailure plain
    refine ⟨⟨?_, ?_⟩, ?_, herror⟩
    · intro hresult
      rcases session.allSucceed_or_firstFailure operations with hall | ⟨error, hfirst⟩
      · exact hall
      · rw [(herror error hfirst).1] at hresult
        contradiction
    · intro hall
      rw [hok hall]
    · intro hall
      rw [hok hall]
      exact ⟨rfl, rfl⟩
  · intro opened hopen
    have hbegin := begin_of_isOpen hopen
    exact ⟨hbegin, step_begin_of_isOpen hopen, fun block => by rw [withTransaction, hbegin]⟩

/-- A NarInfo with a reference, and a reference of a NarInfo that is not there. -/
theorem withTransaction_undoes_references :
    let operations : List (Time.Timestamp × Operation) :=
      [(.epoch, .write (.createNarInfo (placeholder "h"))),
        (.epoch, .write (.addReferences 1 ["r"])), (.epoch, .write (.addReferences 2 ["r"]))]
    let session := fresh .sqlite
    session.saved = none ∧
      session.FirstFailure operations (.database "query" .foreignKeyViolated) ∧
      (session.withTransaction (.ofCalls operations)).session = session := by
  intro operations session
  have hfirst : session.FirstFailure operations (.database "query" .foreignKeyViolated) := by
    refine ⟨operations.take 2, .epoch, .write (.addReferences 2 ["r"]), [], rfl, ?_, ?_⟩
    · unfold AllSucceed
      decide +kernel
    · decide +kernel
  exact ⟨rfl, hfirst, (((withTransaction_all_or_nothing rfl).1 operations).2.2 _ hfirst).2⟩

end Session

end NarIndex.Store
