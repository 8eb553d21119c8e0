import Mathlib.Data.List.Forall2
import NarIndex.Proofs.Store.Draft
import NarIndex.Proofs.Store.Engine
import NarIndex.Proofs.Store.Transaction

/-!
# NarIndex.Proofs.Store.Contention

A store while another connection has the write lock.  A call that gets as far as a statement that
writes fails as locked, and changes nothing (`Change.run_of_contended`); any other call does not
meet the lock, and answers as it would without it (`Operation.run_of_not_writes`).  So what is tried
under the lock leaves no trace for what comes after it (`Session.contention_is_clean`).
-/

namespace NarIndex.Store

open Catalog (Write)

/-! ## calls that write -/

/-- Whether a call gets as far as a statement that writes: its sizes are storable, its lists go
together, and there is something to write. -/
def Change.writes : Change → Bool
  | .createNarInfo draft | .updateNarInfo draft => draft.isStorable
  | .setNarInfoFileSize _ size => isStorable size
  | .addReferences _ references => !references.isEmpty
  | .addSignatures _ signatures => !signatures.isEmpty
  | .createNarFile draft => draft.isStorable
  | .setTotalChunks _ totalChunks => isStorable totalChunks
  | .linkFileToChunks _ chunks indices => chunks.length == indices.length && !chunks.isEmpty
  | _ => true

/-- Whether a call gets as far as a statement that writes; one that only reads does not. -/
def Operation.writes : Operation → Bool
  | .read _ => false
  | .write change => change.writes

/-- Whether a step gets as far as a statement that writes. -/
def Session.Step.writes : Session.Step → Bool
  | .call operation => operation.writes
  | .begin => false

/-- Whether an event is an attempt to do something on the handle: a call, or a block of steps. -/
def Event.isAttempt : Event → Bool
  | .call _ _ | .block _ => true
  | _ => false

section calls

variable {context : Context} {catalog : Catalog} {α : Type}

/-! ### under the lock -/

section contended

variable (contended : context.contended = true)
include contended

/-- Under contention no NarInfo is created. -/
theorem createNarInfo_of_contended {draft : NarInfo.Draft} (accepted : draft.isStorable) :
    createNarInfo context draft catalog
      = (.error (.ofDriver "create_nar_info" .locked), catalog) := by
  rw [createNarInfo_eq _ _ (NarInfo.Draft.detailsOf_of_isStorable accepted),
    Context.write_of_contended contended]
  rfl

theorem createNarFile_of_contended {draft : NarFile.Draft} (accepted : draft.isStorable) :
    createNarFile context draft catalog
      = (.error (.ofDriver "create_nar_file" .locked), catalog) := by
  obtain ⟨hsize, hchunks⟩ := Bool.and_eq_true_iff.1 accepted
  rw [createNarFile_eq _ _ (storable_of_isStorable hsize _) (storable_of_isStorable hchunks _),
    Context.write_of_contended contended]
  rfl

theorem createChunk_of_contended (hash : String) (size : UInt32) :
    createChunk context hash size catalog
      = (.error (.ofDriver "create_chunk" .locked), catalog) := by
  rw [createChunk_eq, Context.write_of_contended contended]
  rfl

/-- A statement with a size does not get through either, if the size is storable. -/
theorem countedWith_of_contended {size : UInt64} (accepted : isStorable size) (what : String)
    (statement : Int → Write Nat) :
    countedWith context what size statement catalog
      = (.error (.ofDriver "query" .locked), catalog) := by
  rw [countedWith, storable_of_isStorable accepted]
  change counted context (statement size.toNat) catalog = _
  rw [counted, Context.write_of_contended contended]
  rfl

/-- Nor does the first batch of a list. -/
theorem addInBatches_of_contended {links : List α} (h : links ≠ []) (during : String)
    (add : α → Catalog → Except DriverError Catalog) :
    addInBatches context during add links catalog
      = (.error (.ofDriver during .locked), catalog) := by
  rw [addInBatches, Sql.batches_of_ne_nil h, Context.atomically, List.map_cons, Context.writeAll,
    Context.write_of_contended contended]
  change (_, if context.joined then catalog else catalog) = _
  rw [ite_self]

theorem updateNarInfo_of_contended {draft : NarInfo.Draft} (accepted : draft.isStorable) :
    updateNarInfo context draft catalog = (.error (.ofDriver "query" .locked), catalog) := by
  rw [updateNarInfo_eq _ _ (NarInfo.Draft.detailsOf_of_isStorable accepted),
    Context.write_of_contended contended]
  rfl

theorem createSetting_of_contended (key value : String) :
    createSetting context key value catalog
      = (.error (.ofDriver "create_config" .locked), catalog) := by
  rw [createSetting, Context.write_of_contended contended]
  rfl

/-- Under contention no chunks are linked. -/
theorem linkFileToChunks_of_contended {chunks indices : List Int}
    (hlength : chunks.length = indices.length) (hchunks : chunks ≠ []) (narFile : Int) :
    linkFileToChunks context narFile chunks indices catalog
      = (.error (.ofDriver "link_nar_file_to_chunks" .locked), catalog) := by
  have hindices : indices ≠ [] := by
    rintro rfl
    exact hchunks (List.eq_nil_of_length_eq_zero hlength)
  rw [linkFileToChunks, if_neg (not_not_intro hlength)]
  exact addInBatches_of_contended contended (by simp [hchunks, hindices]) _ _

/-- A statement that is the whole of a call fails as locked. -/
theorem write_map_of_contended {β : Type} (during : String) (statement : Write α) (f : α → β) :
    ∃ during', (context.write during statement catalog).map f
      = (.error (.ofDriver during' .locked), catalog) := by
  rw [Context.write_of_contended contended]
  exact ⟨during, rfl⟩

/-- A call that writes fails as locked, and changes nothing. -/
theorem Change.run_of_contended {change : Change} (h : change.writes) :
    ∃ during, change.run context catalog = (.error (.ofDriver during .locked), catalog) := by
  cases change with
  | createNarInfo draft =>
    exact ⟨_, congrArg (Outcome.map _) (createNarInfo_of_contended contended h)⟩
  | updateNarInfo draft =>
    exact ⟨_, congrArg (Outcome.map _) (updateNarInfo_of_contended contended h)⟩
  | createNarFile draft =>
    exact ⟨_, congrArg (Outcome.map _) (createNarFile_of_contended contended h)⟩
  | createChunk hash size =>
    exact ⟨_, congrArg (Outcome.map _) (createChunk_of_contended contended hash size)⟩
  | createSetting key value =>
    exact ⟨_, congrArg (Outcome.map _) (createSetting_of_contended contended key value)⟩
  | setNarInfoFileSize | setTotalChunks => exact ⟨_, countedWith_of_contended contended h _ _⟩
  | addReferences narInfo references =>
    have hlinks : references.map (Attachment.mk narInfo) ≠ [] := by simpa [writes] using h
    exact ⟨_, congrArg silent (addInBatches_of_contended contended hlinks _ _)⟩
  | addSignatures narInfo signatures =>
    have hlinks : signatures.map (Attachment.mk narInfo) ≠ [] := by simpa [writes] using h
    exact ⟨_, congrArg silent (addInBatches_of_contended contended hlinks _ _)⟩
  | linkFileToChunks narFile chunks indices =>
    obtain ⟨hlength, hchunks⟩ : chunks.length = indices.length ∧ chunks ≠ [] := by
      simpa [writes] using h
    exact ⟨_, congrArg silent (linkFileToChunks_of_contended contended hlength hchunks narFile)⟩
  | _ => exact write_map_of_contended contended _ _ _

end contended

end calls

/-! ## calls that do not write -/

/-- A size that is not storable is found before the catalog is asked. -/
theorem createNarInfo_of_not_isStorable {draft : NarInfo.Draft}
    (rejected : draft.isStorable = false) :
    ∃ text, ∀ context catalog,
      createNarInfo context draft catalog = (.error (.internal text), catalog) := by
  obtain ⟨text, herror⟩ := NarInfo.Draft.detailsOf_of_not_isStorable rejected
  exact ⟨text, fun context catalog => by rw [createNarInfo, herror]⟩

theorem createNarFile_of_not_isStorable {draft : NarFile.Draft}
    (rejected : draft.isStorable = false) :
    ∃ text, ∀ context catalog,
      createNarFile context draft catalog = (.error (.internal text), catalog) := by
  cases hsize : isStorable draft.fileSize with
  | false =>
    obtain ⟨text, herror⟩ := storable_of_not_isStorable hsize "file_size"
    exact ⟨text, fun context catalog => by rw [createNarFile, herror]⟩
  | true =>
    have hchunks : isStorable draft.totalChunks = false := by
      rwa [NarFile.Draft.isStorable, hsize, Bool.true_and] at rejected
    obtain ⟨text, herror⟩ := storable_of_not_isStorable hchunks "total_chunks"
    refine ⟨text, fun context catalog => ?_⟩
    rw [createNarFile, storable_of_isStorable hsize, herror]

theorem countedWith_of_not_isStorable {size : UInt64} (rejected : isStorable size = false)
    (what : String) (statement : Int → Write Nat) :
    ∃ text, ∀ context catalog,
      countedWith context what size statement catalog = (.error (.internal text), catalog) := by
  obtain ⟨text, herror⟩ := storable_of_not_isStorable rejected what
  exact ⟨text, fun context catalog => by rw [countedWith, herror]⟩

theorem updateNarInfo_of_not_isStorable {draft : NarInfo.Draft}
    (rejected : draft.isStorable = false) :
    ∃ text, ∀ context catalog,
      updateNarInfo context draft catalog = (.error (.internal text), catalog) := by
  obtain ⟨text, herror⟩ := NarInfo.Draft.detailsOf_of_not_isStorable rejected
  exact ⟨text, fun context catalog => by rw [updateNarInfo, herror]⟩

/-- An empty list asks nothing of the catalog. -/
theorem addInBatches_nil {α : Type} (context : Context) (during : String)
    (add : α → Catalog → Except DriverError Catalog) (catalog : Catalog) :
    addInBatches context during add [] catalog = (.ok (), catalog) := by
  rw [addInBatches, Sql.batches_nil]
  rfl

/-- A call that does not get as far as writing has one answer, whatever it meets, and changes
nothing. -/
theorem Change.run_of_not_writes {change : Change} (h : change.writes = false) :
    ∃ answer, ∀ context catalog, change.run context catalog = (answer, catalog) := by
  cases change with
  | createNarInfo draft =>
    obtain ⟨text, herror⟩ := createNarInfo_of_not_isStorable h
    exact ⟨_, fun context catalog => congrArg (Outcome.map _) (herror context catalog)⟩
  | updateNarInfo draft =>
    obtain ⟨text, herror⟩ := updateNarInfo_of_not_isStorable h
    exact ⟨_, fun context catalog => congrArg (Outcome.map _) (herror context catalog)⟩
  | createNarFile draft =>
    obtain ⟨text, herror⟩ := createNarFile_of_not_isStorable h
    exact ⟨_, fun context catalog => congrArg (Outcome.map _) (herror context catalog)⟩
  | setNarInfoFileSize | setTotalChunks =>
    obtain ⟨text, herror⟩ := countedWith_of_not_isStorable h _ _
    exact ⟨_, herror⟩
  | addReferences narInfo references =>
    obtain rfl : references = [] := by simpa [writes] using h
    exact ⟨_, fun context catalog => congrArg silent (addInBatches_nil context _ _ catalog)⟩
  | addSignatures narInfo signatures =>
    obtain rfl : signatures = [] := by simpa [writes] using h
    exact ⟨_, fun context catalog => congrArg silent (addInBatches_nil context _ _ catalog)⟩
  | linkFileToChunks narFile chunks indices =>
    by_cases hlength : chunks.length = indices.length
    · obtain rfl : chunks = [] := by simpa [writes, hlength] using h
      refine ⟨.ok .done, fun context catalog => ?_⟩
      rw [Change.run, Store.linkFileToChunks, if_neg (not_not_intro hlength)]
      exact congrArg silent (addInBatches_nil context _ _ catalog)
    · refine ⟨.error (.mismatchedInputLengths chunks.length indices.length), ?_⟩
      intro context catalog
      rw [Change.run, Store.linkFileToChunks, if_pos hlength]
      rfl
  | _ => contradiction

/-- A call that does not get as far as writing answers the same with and without the lock, and
changes nothing. -/
theorem Operation.run_of_not_writes {operation : Operation} (h : operation.writes = false)
    {context other : Context} (hdialect : context.dialect = other.dialect) (catalog : Catalog) :
    operation.run context catalog = ((operation.run other catalog).1, catalog) := by
  cases operation with
  | read query => rw [run, run, hdialect]
  | write change =>
    obtain ⟨answer, hanswer⟩ := Change.run_of_not_writes h
    rw [run, run, hanswer, hanswer]

namespace Session

variable {session : Session}

/-! ## steps under the lock -/

/-- The answer of a step under the lock is clean: if the step writes, it is an error that is worth
another try, and otherwise it is the answer that the step has without the lock. -/
structure Clean (session : Session) (step : Time.Timestamp × Step)
    (answer : Except StoreError Answer) : Prop where
  fails : step.2.writes → ∃ error, answer = .error error ∧ error.kind = .deadlock
  answers : step.2.writes = false → answer = (session.unlock.step step.1 step.2).1

/-- A call under the lock that writes. -/
theorem perform_of_contended (contended : session.contended = true) {operation : Operation}
    (h : operation.writes) (now : Time.Timestamp) :
    ∃ error, session.perform now operation = (.error error, session) ∧
      error.kind = .deadlock := by
  cases operation with
  | read query => contradiction
  | write change =>
    obtain ⟨during, hrun⟩ := @Change.run_of_contended (session.context now) session.catalog
      contended change h
    refine ⟨.ofDriver during .locked, ?_, rfl⟩
    rw [perform, Operation.run, hrun]

/-- A call that does not write, under the lock or without it. -/
theorem perform_of_not_writes {operation : Operation} (h : operation.writes = false)
    (now : Time.Timestamp) :
    session.perform now operation = ((session.unlock.perform now operation).1, session) := by
  have hdialect : (session.context now).dialect = (session.unlock.context now).dialect := rfl
  rw [perform, Operation.run_of_not_writes h hdialect]
  rfl

/-- A step within a transaction under the lock changes nothing, and its answer is clean. -/
theorem step_of_contended (contended : session.contended = true) (opened : session.isOpen)
    (now : Time.Timestamp) (step : Step) :
    (session.step now step).2 = session ∧
      session.Clean (now, step) (session.step now step).1 := by
  cases step with
  | begin =>
    have hlocked := step_begin_of_isOpen opened now
    have hfree := @step_begin_of_isOpen session.unlock opened now
    rw [hlocked]
    exact ⟨rfl, nofun, fun _ => by rw [hfree]⟩
  | call operation =>
    rw [Session.step]
    cases hwrites : operation.writes with
    | false =>
      rw [perform_of_not_writes hwrites]
      refine ⟨rfl, fun h => ?_, fun _ => rfl⟩
      rw [Step.writes, hwrites] at h
      contradiction
    | true =>
      obtain ⟨error, hperform, hkind⟩ := perform_of_contended contended hwrites now
      rw [hperform]
      refine ⟨rfl, fun _ => ⟨error, rfl, hkind⟩, fun h => ?_⟩
      rw [Step.writes, hwrites] at h
      contradiction

/-- Steps within a transaction under the lock change nothing, and the answers of those that are run
are clean. -/
theorem runSteps_of_contended (contended : session.contended = true) (opened : session.isOpen)
    (tolerant : Bool) (steps : List (Time.Timestamp × Step)) :
    (session.runSteps tolerant steps).session = session ∧
      ∃ run, run <+: steps ∧
        List.Forall₂ session.Clean run (session.runSteps tolerant steps).answers := by
  induction steps with
  | nil => exact ⟨rfl, [], List.prefix_rfl, .nil⟩
  | cons head steps ih =>
    obtain ⟨now, step⟩ := head
    obtain ⟨hsession, hclean⟩ := step_of_contended contended opened now step
    obtain ⟨hrest, run, hrun, hanswers⟩ := ih
    have hgoes : (now, step) :: run <+: (now, step) :: steps :=
      (List.prefix_cons_inj (now, step)).2 hrun
    rw [runSteps]
    split
    · next answer next heq =>
      rw [heq] at hsession hclean
      obtain rfl : next = session := hsession
      exact ⟨hrest, _, hgoes, .cons hclean hanswers⟩
    · next error next heq =>
      rw [heq] at hsession hclean
      obtain rfl : next = session := hsession
      split
      · exact ⟨hrest, _, hgoes, .cons hclean hanswers⟩
      · refine ⟨rfl, [(now, step)], ?_, .cons hclean .nil⟩
        exact (List.prefix_cons_inj (now, step)).2 List.nil_prefix

/-! ## blocks and histories under the lock -/

/-- A block under the lock changes nothing, and within its transaction the answers are clean. -/
theorem withTransaction_of_contended (contended : session.contended = true) (block : Block) :
    (session.withTransaction block).session = session ∧
      ∀ opened, session.begin = .ok opened → ∃ run, run <+: block.steps ∧
        List.Forall₂ opened.Clean run (session.withTransaction block).answers := by
  cases hsaved : session.saved with
  | some start =>
    have hbegin : session.begin = .error .nestedTransaction :=
      begin_of_isOpen (by rw [isOpen, hsaved, Option.isSome_some])
    rw [withTransaction, hbegin]
    refine ⟨rfl, ?_⟩
    rintro opened ⟨⟩
  | none =>
    obtain ⟨hsession, hanswers⟩ := @runSteps_of_contended (session.within session.catalog)
      contended rfl block.tolerant block.steps
    have hcommit := commit_within hsaved session.catalog
    rw [begin_of_plain hsaved, withTransaction_of_plain hsaved]
    dsimp only
    split
    · refine ⟨rfl, ?_⟩
      rintro opened ⟨⟩
      exact hanswers
    · rw [hsession, hcommit]
      refine ⟨rfl, ?_⟩
      rintro opened ⟨⟩
      exact hanswers

/-- A call under the lock changes nothing, whether it writes or not. -/
theorem perform_snd_of_contended (contended : session.contended = true) (operation : Operation)
    (now : Time.Timestamp) : (session.perform now operation).2 = session := by
  cases hwrites : operation.writes with
  | false => rw [perform_of_not_writes hwrites]
  | true =>
    obtain ⟨error, hperform, -⟩ := perform_of_contended contended hwrites now
    rw [hperform]

/-- Attempts under the lock leave the handle as it is. -/
theorem after_attempts_of_contended (contended : session.contended = true) {attempts : List Event}
    (h : ∀ event ∈ attempts, event.isAttempt) : session.after attempts = session := by
  induction attempts with
  | nil => rfl
  | cons event attempts ih =>
    obtain ⟨hevent, hattempts⟩ := List.forall_mem_cons.1 h
    have hhandle : (session.handle event).2 = session := by
      cases event with
      | call now operation => exact perform_snd_of_contended contended operation now
      | block block => exact (withTransaction_of_contended contended block).1
      | _ => contradiction
    rw [after_cons, hhandle, ih hattempts]

/-- Under contention no run of calls leaves anything. -/
theorem after_calls_of_contended (contended : session.contended = true)
    (operations : List (Time.Timestamp × Operation)) :
    session.after (Event.calls operations) = session := by
  refine after_attempts_of_contended contended fun event hevent => ?_
  obtain ⟨call, -, rfl⟩ := List.mem_map.1 hevent
  rfl

/-- A block of calls fails with the error of the first that writes, if the calls before succeed. -/
theorem withTransaction_ofCalls_of_contended (contended : session.contended = true)
    (plain : session.saved = none) {before rest : List (Time.Timestamp × Operation)}
    (hbefore : session.AllSucceed before) {operation : Operation} (h : operation.writes)
    (now : Time.Timestamp) :
    ∃ error, (session.withTransaction (.ofCalls (before ++ (now, operation) :: rest))).result
        = .error error ∧ error.kind = .deadlock := by
  have hafter := after_calls_of_contended contended before
  obtain ⟨error, hperform, hkind⟩ := perform_of_contended contended h now
  have hfailure : session.FirstFailure (before ++ (now, operation) :: rest) error := by
    refine ⟨before, now, operation, rest, rfl, hbefore, ?_⟩
    rw [hafter, hperform]
  exact ⟨error, (withTransaction_of_firstFailure plain hfailure).1, hkind⟩

/-- Lock contention is a clean failure, and worth another try.  While another connection has the
write lock:

* A call that gets as far as a statement that writes fails with an error of the kind that stands for
  deadlocks, and changes nothing.
* Any other call answers as it would without the lock, and changes nothing.
* A block changes nothing either.  Within its transaction, a step that writes fails in the same way,
  and any other one answers as it would without the lock.  If calls that succeed are followed by one
  that writes, then the block of all of them fails with its error.
* Once the lock is released, whatever follows has the same replies and the same tables as if none of
  the calls and blocks under the lock had been tried. -/
theorem contention_is_clean (contended : session.contended = true) :
    (∀ now operation, operation.writes →
      ∃ error, session.perform now operation = (.error error, session) ∧
        error.kind = .deadlock) ∧
    (∀ now operation, operation.writes = false →
      session.perform now operation = ((session.unlock.perform now operation).1, session)) ∧
    (∀ block, (session.withTransaction block).session = session ∧
      ∀ opened, session.begin = .ok opened → ∃ run, run <+: block.steps ∧
        List.Forall₂ opened.Clean run (session.withTransaction block).answers) ∧
    (session.saved = none → ∀ before now operation rest, session.AllSucceed before →
      operation.writes → ∃ error,
        (session.withTransaction (.ofCalls (before ++ (now, operation) :: rest))).result
            = .error error ∧
          error.kind = .deadlock) ∧
    ∀ attempts : List Event, (∀ event ∈ attempts, event.isAttempt) → ∀ history,
      (session.after (attempts ++ [.unlock])).trace history = session.unlock.trace history := by
  refine ⟨fun now operation h => perform_of_contended contended h now,
    fun now operation h => perform_of_not_writes h now, withTransaction_of_contended contended,
    fun plain before now operation rest hbefore h =>
      withTransaction_ofCalls_of_contended contended plain hbefore h now,
    fun attempts h history => ?_⟩
  rw [after_append, after_attempts_of_contended contended h]
  rfl

/-- Under the lock, a placeholder is not filled, nor mistaken for a row that is there; a deletion
that would find no row fails as well, and so does a block that writes; an empty list is accepted. -/
theorem contention_is_clean_placeholder :
    let filled : Operation := .write (.createNarInfo { hash := "h", url := some "u" })
    let absent : Operation := .write (.deleteChunkById 9)
    let empty : Operation := .write (.addReferences 1 [])
    let calls : List (Time.Timestamp × Operation) := [(.epoch, .read .hashes), (.epoch, filled)]
    let session := (fresh .sqlite).after
      [.call .epoch (.write (.createNarInfo (placeholder "h"))), .lock]
    let attempts : List Event := [.call .epoch filled, .call .epoch absent, .call .epoch empty,
      .block (.ofCalls calls)]
    session.Reachable ∧ session.contended = true ∧
      (∃ error, session.perform .epoch filled = (.error error, session) ∧
        error.kind = .deadlock) ∧
      (∃ error, session.perform .epoch absent = (.error error, session) ∧
        error.kind = .deadlock) ∧
      session.perform .epoch empty = (.ok .done, session) ∧
      (∃ error, (session.withTransaction (.ofCalls calls)).result = .error error ∧
        error.kind = .deadlock) ∧
      ∀ history,
        (session.after (attempts ++ [.unlock])).trace history = session.unlock.trace history := by
  intro filled absent empty calls session attempts
  have h : session.Reachable := (Reachable.fresh .sqlite).after _
  obtain ⟨hwrites, hothers, -, hblocks, hafter⟩ := @contention_is_clean session rfl
  have hlisted : session.AllSucceed [(.epoch, .read .hashes)] :=
    allSucceed_cons.2 ⟨⟨_, rfl⟩, allSucceed_nil _⟩
  have hdone : (session.unlock.perform .epoch empty).1 = .ok .done := by decide +kernel
  have haccepted := hothers .epoch empty rfl
  rw [hdone] at haccepted
  exact ⟨h, rfl, hwrites .epoch filled rfl, hwrites .epoch absent rfl, haccepted,
    hblocks rfl _ .epoch filled [] hlisted rfl, hafter attempts (by decide)⟩

end Session

end NarIndex.Store
