import NarIndex.Proofs.Catalog.Statement
import NarIndex.Proofs.Store.Outcome
import NarIndex.Store.History

/-!
# NarIndex.Proofs.Store.Engine

The store answers the same over an engine that merges and returns a row in one statement as over one
that inserts, takes the violation of the unique key for the sign that the row is there, and reads it
back.  Whatever the engine, a call that creates a row comes to a merge (`createNarInfo_eq`,
`createNarFile_eq`, `createChunk_eq`), and one that updates it to an update that returns the row
(`updateNarInfo_eq`); no other call looks at the engine.  From there the agreement goes up through
blocks to whole histories (`trace_postgres_eq_trace_sqlite`).
-/

namespace NarIndex.Store

open Catalog (Value Write Readable)

/-! ## inserting and merging -/

/-- A violated key is told by its code, whatever the columns. -/
theorem isDuplicateKey_uniqueViolated (during columns : String) :
    (StoreError.ofDriver during (.uniqueViolated columns)).isDuplicateKey = true :=
  rfl

theorem isDuplicateKey_locked (during : String) :
    (StoreError.ofDriver during .locked).isDuplicateKey = false :=
  rfl

/-- How an insert and a merge of the same row meet: either the key is absent, both add the row, and
it is found by its id; or the key is present, and `taken` finds what the merge yields. -/
inductive Meet {ρ : Type → Type} [Readable ρ] (insert : Write Int) (merge : Write (ρ Value))
    (byId : Catalog → Int → Except StoreError (ρ Int)) (taken : Catalog → Outcome (ρ Int))
    (catalog : Catalog) : Prop
  | absent (id : Int) (row : ρ Value) (after : Catalog)
      (hinsert : insert catalog = .ok (id, after)) (hmerge : merge catalog = .ok (row, after))
      (hfound : byId after id = (Catalog.read row).mapError .ofQuery)
  | present (columns : String) (row : ρ Value) (after : Catalog)
      (hinsert : insert catalog = .error (.uniqueViolated columns))
      (hmerge : merge catalog = .ok (row, after)) (htaken : taken catalog = returned row after)

/-- An insert that falls back on the row that is there comes to the same as a merge. -/
theorem inserted_eq_returned (ρ : Type → Type) [Readable ρ] {insert : Write Int}
    {merge : Write (ρ Value)} {byId : Catalog → Int → Except StoreError (ρ Int)}
    {taken : Catalog → Outcome (ρ Int)} {catalog : Catalog} (context : Context) (during : String)
    (h : context.contended = false → Meet insert merge byId taken catalog) :
    inserted (context.write during insert catalog) byId taken
      = Outcome.andThen (context.write during merge catalog) returned := by
  cases hlock : context.contended with
  | true =>
    rw [Context.write_of_contended hlock, Context.write_of_contended hlock, inserted,
      isDuplicateKey_locked, if_neg Bool.false_ne_true]
    rfl
  | false =>
    cases h hlock with
    | absent id row after hinsert hmerge hfound =>
      rw [Context.write_ok hlock hinsert, Context.write_ok hlock hmerge]
      change (byId after id, after) = returned row after
      rw [hfound, returned]
    | present columns row after hinsert hmerge htaken =>
      rw [Context.write_error hlock hinsert, Context.write_ok hlock hmerge, inserted,
        isDuplicateKey_uniqueViolated, if_pos rfl]
      exact htaken

/-! ## calls -/

/-- A context on another backend. -/
def Context.on (dialect : Sql.Dialect) (context : Context) : Context :=
  { context with dialect }

section calls

variable (context : Context) (catalog : Catalog)

/-- A NarInfo is created by merging its details: a placeholder is filled, and any other row
stays. -/
theorem createNarInfo_eq {draft : NarInfo.Draft} {details : NarInfo.Details Int}
    (h : detailsOf draft = .ok details) :
    createNarInfo context draft catalog
      = Outcome.andThen
          (context.write "create_nar_info"
            (Catalog.mergeNarInfo draft.hash details context.now.micros) catalog)
          returned := by
  rw [createNarInfo, h]
  dsimp only
  split
  · rfl
  · refine inserted_eq_returned NarInfo context _ fun hlock => ?_
    cases hrow : catalog.narInfoByHash? draft.hash with
    | none =>
      refine .absent _ _ _ (Catalog.insertNarInfo_of_none hrow ..)
        (Catalog.mergeNarInfo_of_none hrow ..) ?_
      rw [narInfoById, Catalog.narInfoById?_addNarInfo]
      rfl
    | some row =>
      refine .present _ _ _ (Catalog.insertNarInfo_of_some hrow ..)
        (Catalog.mergeNarInfo_of_some hrow ..) ?_
      cases hurl : details.url.isSome with
      | true =>
        rw [if_pos rfl, Context.write_ok hlock (Catalog.fillPlaceholder_eq hurl ..)]
        change (narInfoByHash _ _, _) = _
        rw [narInfoByHash, Catalog.narInfoByHash?_withMerged, hrow]
        rfl
      | false =>
        rw [if_neg Bool.false_ne_true, Catalog.withMerged_of_isNone hurl,
          NarInfo.merged_of_isNone (by rw [NarInfo.Details.kept_url, hurl]), narInfoByHash, hrow]
        rfl

/-- A NarInfo is updated by giving it the details, and yields the row if there is one. -/
theorem updateNarInfo_eq {draft : NarInfo.Draft} {details : NarInfo.Details Int}
    (h : detailsOf draft = .ok details) :
    updateNarInfo context draft catalog
      = Outcome.andThen
          (context.write "query"
            (Catalog.amendNarInfoReturning draft.hash details context.now.micros) catalog)
          fun row catalog => (found "narinfo" draft.hash row, catalog) := by
  rw [updateNarInfo, h]
  dsimp only
  split
  · rfl
  · cases hlock : context.contended with
    | true =>
      rw [Context.write_of_contended hlock, Context.write_of_contended hlock]
      rfl
    | false =>
      rw [Context.write_ok hlock (Catalog.amendNarInfo_eq ..),
        Context.write_ok hlock (Catalog.amendNarInfoReturning_eq ..)]
      change (narInfoByHash _ _, _) = (found _ _ _, _)
      rw [narInfoByHash, Catalog.narInfoByHash?_withAmended]

/-- A NAR file is created by merging. -/
theorem createNarFile_eq {draft : NarFile.Draft} {fileSize totalChunks : Int}
    (hsize : storable "file_size" draft.fileSize = .ok fileSize)
    (hchunks : storable "total_chunks" draft.totalChunks = .ok totalChunks) :
    createNarFile context draft catalog
      = Outcome.andThen
          (context.write "create_nar_file"
            (Catalog.mergeNarFile draft.key fileSize totalChunks context.now.micros) catalog)
          returned := by
  rw [createNarFile, hsize, hchunks]
  dsimp only
  split
  · rfl
  · refine inserted_eq_returned NarFile context _ fun _ => ?_
    cases hrow : catalog.narFileByKey? draft.key with
    | none =>
      refine .absent _ _ _ (Catalog.insertNarFile_of_none hrow ..)
        (Catalog.mergeNarFile_of_none hrow ..) ?_
      rw [narFileById, Catalog.narFileById?_addNarFile]
      rfl
    | some row =>
      refine .present _ _ _ (Catalog.insertNarFile_of_some hrow ..)
        (Catalog.mergeNarFile_of_some hrow ..) ?_
      rw [narFileByKey, hrow]
      rfl

/-- A chunk is created by merging. -/
theorem createChunk_eq (hash : String) (size : UInt32) :
    createChunk context hash size catalog
      = Outcome.andThen
          (context.write "create_chunk" (Catalog.mergeChunk hash size.toNat context.now.micros)
            catalog)
          returned := by
  rw [createChunk]
  split
  · rfl
  · refine inserted_eq_returned Chunk context _ fun _ => ?_
    cases hrow : catalog.chunkByHash? hash with
    | none =>
      refine .absent _ _ _ (Catalog.insertChunk_of_none hrow ..)
        (Catalog.mergeChunk_of_none hrow ..) ?_
      rw [chunkById, Catalog.chunkById?_addChunk]
      rfl
    | some row =>
      refine .present _ _ _ (Catalog.insertChunk_of_some hrow ..)
        (Catalog.mergeChunk_of_some hrow ..) ?_
      rw [chunkByHash, hrow]
      rfl

/-- Creating a NarInfo comes to the same, whether it upserts or not. -/
theorem createNarInfo_on (dialect : Sql.Dialect) (draft : NarInfo.Draft) :
    createNarInfo (context.on dialect) draft catalog = createNarInfo context draft catalog := by
  cases h : detailsOf draft with
  | error error => rw [createNarInfo, createNarInfo, h]
  | ok details =>
    rw [createNarInfo_eq _ _ h, createNarInfo_eq _ _ h]
    rfl

/-- Updating a NarInfo comes to the same, whether its row is returned or looked up. -/
theorem updateNarInfo_on (dialect : Sql.Dialect) (draft : NarInfo.Draft) :
    updateNarInfo (context.on dialect) draft catalog = updateNarInfo context draft catalog := by
  cases h : detailsOf draft with
  | error error => rw [updateNarInfo, updateNarInfo, h]
  | ok details =>
    rw [updateNarInfo_eq _ _ h, updateNarInfo_eq _ _ h]
    rfl

theorem createNarFile_on (dialect : Sql.Dialect) (draft : NarFile.Draft) :
    createNarFile (context.on dialect) draft catalog = createNarFile context draft catalog := by
  cases hsize : storable "file_size" draft.fileSize with
  | error error => rw [createNarFile, createNarFile, hsize]
  | ok fileSize =>
    cases hchunks : storable "total_chunks" draft.totalChunks with
    | error error => rw [createNarFile, createNarFile, hsize, hchunks]
    | ok totalChunks =>
      rw [createNarFile_eq _ _ hsize hchunks, createNarFile_eq _ _ hsize hchunks]
      rfl

theorem createChunk_on (dialect : Sql.Dialect) (hash : String) (size : UInt32) :
    createChunk (context.on dialect) hash size catalog = createChunk context hash size catalog := by
  rw [createChunk_eq, createChunk_eq]
  rfl

/-- Adding a list does not ask for the dialect. -/
theorem addInBatches_on {α : Type} (dialect : Sql.Dialect) (during : String)
    (add : α → Catalog → Except DriverError Catalog) (links : List α) :
    addInBatches (context.on dialect) during add links catalog
      = addInBatches context during add links catalog := by
  have hlock : (context.on dialect).contended = context.contended := rfl
  rw [addInBatches, addInBatches, funext (Context.writeAll_congr hlock during _)]
  rfl

/-- A call that writes does the same on every backend. -/
theorem Change.run_on (dialect : Sql.Dialect) (change : Change) :
    change.run (context.on dialect) catalog = change.run context catalog := by
  cases change with
  | createNarInfo => exact congrArg (Outcome.map _) (createNarInfo_on ..)
  | updateNarInfo => exact congrArg (Outcome.map _) (updateNarInfo_on ..)
  | createNarFile => exact congrArg (Outcome.map _) (createNarFile_on ..)
  | createChunk => exact congrArg (Outcome.map _) (createChunk_on ..)
  | addReferences => exact congrArg silent (addInBatches_on ..)
  | addSignatures => exact congrArg silent (addInBatches_on ..)
  | linkFileToChunks =>
    refine congrArg silent ?_
    rw [Store.linkFileToChunks, Store.linkFileToChunks, addInBatches_on]
  | _ => rfl

end calls

/-! ## histories -/

/-- Whether a call is one that both engines can run: not the question for the engine itself, and
not a sum, which each engine spells in its own way. -/
def Operation.isPortable : Operation → Bool
  | .read .kind | .read .totalFileSize | .read .totalChunkSize => false
  | _ => true

/-- Whether a step is one that both engines can run. -/
def Session.Step.isPortable : Session.Step → Bool
  | .call operation => operation.isPortable
  | .begin => true

/-- Whether an event is one that both engines can run. -/
def Event.isPortable : Event → Bool
  | .call _ operation => operation.isPortable
  | .block b => b.steps.all (·.2.isPortable)
  | _ => true

/-- A portable call comes to the same in all dialects. -/
theorem Operation.run_on {operation : Operation} (h : operation.isPortable) (dialect : Sql.Dialect)
    (context : Context) (catalog : Catalog) :
    operation.run (context.on dialect) catalog = operation.run context catalog := by
  cases operation with
  | write change => exact change.run_on context catalog dialect
  | read query =>
    cases query with
    | kind => contradiction
    | _ => rfl

namespace Session

/-- Two stores in use that differ in nothing but the engine. -/
structure Twins (a b : Session) : Prop where
  catalog : a.catalog = b.catalog
  saved : a.saved = b.saved
  contended : a.contended = b.contended

namespace Twins

variable {a b : Session}

theorem fresh (dialect other : Sql.Dialect) : Twins (fresh dialect) (fresh other) :=
  ⟨rfl, rfl, rfl⟩

theorem isOpen (h : Twins a b) : a.isOpen = b.isOpen := by
  rw [Session.isOpen, Session.isOpen, h.saved]

/-- A call answers the same on twins, and leaves twins. -/
theorem perform (h : Twins a b) (now : Time.Timestamp) {operation : Operation}
    (portable : operation.isPortable) :
    (a.perform now operation).1 = (b.perform now operation).1 ∧
      Twins (a.perform now operation).2 (b.perform now operation).2 := by
  have hcontext : a.context now = (b.context now).on a.dialect := by
    rw [Context.on, context, context, h.contended, h.isOpen]
  have hrun :
      operation.run (a.context now) a.catalog = operation.run (b.context now) b.catalog := by
    rw [hcontext, h.catalog]
    exact Operation.run_on portable _ _ _
  rw [perform_fst, perform_fst, perform_snd, perform_snd, hrun]
  exact ⟨rfl, rfl, h.saved, h.contended⟩

/-- Two attempts to move a handle that fail alike, or lead to twins. -/
def Moves (ra rb : Except StoreError Session) : Prop :=
  (∃ error, ra = .error error ∧ rb = .error error) ∨
    ∃ a' b', ra = .ok a' ∧ rb = .ok b' ∧ Twins a' b'

theorem moved (h : Twins a b) {ra rb : Except StoreError Session} (hmoves : Moves ra rb) :
    (a.moved ra).1 = (b.moved rb).1 ∧ Twins (a.moved ra).2 (b.moved rb).2 := by
  rcases hmoves with ⟨error, rfl, rfl⟩ | ⟨a', b', rfl, rfl, hnext⟩
  · exact ⟨rfl, h⟩
  · exact ⟨rfl, hnext⟩

/-- Opening a transaction does the same on twins. -/
theorem begin (h : Twins a b) : Moves a.begin b.begin := by
  rw [Session.begin, Session.begin, h.isOpen]
  split
  · exact .inl ⟨_, rfl, rfl⟩
  · exact .inr ⟨_, _, rfl, rfl, h.catalog, congrArg some h.catalog,
      h.contended⟩

/-- So does giving one up. -/
theorem abandon (h : Twins a b) : Twins a.abandon b.abandon := by
  unfold Session.abandon
  rw [← h.saved]
  split
  · exact ⟨rfl, rfl, h.contended⟩
  · exact h

theorem commit (h : Twins a b) : Moves a.commit b.commit := by
  rw [Session.commit, Session.commit, h.isOpen]
  split
  · exact .inr ⟨_, _, rfl, rfl, h.catalog, rfl, h.contended⟩
  · exact .inl ⟨_, rfl, rfl⟩

theorem rollback (h : Twins a b) : Moves a.rollback b.rollback := by
  rw [Session.rollback, Session.rollback, h.isOpen]
  split
  · exact .inr ⟨_, _, rfl, rfl, h.abandon⟩
  · exact .inl ⟨_, rfl, rfl⟩

theorem migrate (h : Twins a b) : a.migrate = b.migrate := by
  rw [Session.migrate, Session.migrate, h.isOpen, h.contended]

theorem reopen (h : Twins a b) : Moves a.reopen b.reopen := by
  rw [Session.reopen, Session.reopen, h.abandon.migrate]
  cases b.abandon.migrate with
  | ok _ => exact .inr ⟨_, _, rfl, rfl, h.abandon⟩
  | error error => exact .inl ⟨error, rfl, rfl⟩

/-- A portable step keeps twins twins. -/
theorem step (h : Twins a b) (now : Time.Timestamp) {step : Step} (portable : step.isPortable) :
    (a.step now step).1 = (b.step now step).1 ∧
      Twins (a.step now step).2 (b.step now step).2 := by
  cases step with
  | call operation => exact h.perform now portable
  | begin =>
    rw [Session.step, Session.step]
    rcases h.begin with ⟨error, ha, hb⟩ | ⟨a', b', ha, hb, hnext⟩
    · rw [ha, hb]
      exact ⟨rfl, h⟩
    · rw [ha, hb]
      exact ⟨rfl, hnext⟩

/-- Steps answer the same on twins, come to the same, and leave twins. -/
theorem runSteps (h : Twins a b) (tolerant : Bool) {steps : List (Time.Timestamp × Step)}
    (portable : ∀ step ∈ steps, step.2.isPortable) :
    (a.runSteps tolerant steps).answers = (b.runSteps tolerant steps).answers ∧
      (a.runSteps tolerant steps).result = (b.runSteps tolerant steps).result ∧
      Twins (a.runSteps tolerant steps).session (b.runSteps tolerant steps).session := by
  induction steps generalizing a b with
  | nil => exact ⟨rfl, rfl, h⟩
  | cons head steps ih =>
    obtain ⟨now, step⟩ := head
    obtain ⟨hhead, hsteps⟩ := List.forall_mem_cons.1 portable
    obtain ⟨hanswer, hnext⟩ := h.step now hhead
    rw [Session.runSteps, Session.runSteps]
    generalize a.step now step = ra at hanswer hnext
    generalize b.step now step = rb at hanswer hnext
    obtain ⟨answer, a'⟩ := ra
    obtain ⟨answer', b'⟩ := rb
    cases hanswer
    obtain ⟨hanswers, hresult, hrest⟩ := ih hnext hsteps
    cases answer with
    | ok answer => exact ⟨congrArg (Except.ok answer :: ·) hanswers, hresult, hrest⟩
    | error error =>
      cases tolerant with
      | true => exact ⟨congrArg (Except.error error :: ·) hanswers, hresult, hrest⟩
      | false => exact ⟨rfl, rfl, hnext⟩

/-- A portable block keeps twins twins. -/
theorem withTransaction (h : Twins a b) {block : Block}
    (portable : ∀ step ∈ block.steps, step.2.isPortable) :
    (a.withTransaction block).answers = (b.withTransaction block).answers ∧
      (a.withTransaction block).result = (b.withTransaction block).result ∧
      Twins (a.withTransaction block).session (b.withTransaction block).session := by
  rw [Session.withTransaction, Session.withTransaction]
  rcases h.begin with ⟨error, ha, hb⟩ | ⟨a', b', ha, hb, hopened⟩
  · rw [ha, hb]
    exact ⟨rfl, rfl, h⟩
  · obtain ⟨hanswers, hresult, hrest⟩ := hopened.runSteps block.tolerant portable
    rw [ha, hb]
    dsimp only
    rw [hresult]
    split
    · exact ⟨hanswers, rfl, hrest.abandon⟩
    · exact ⟨hanswers, rfl, hrest.catalog, rfl, hrest.contended⟩

/-- Every event has the same reply on twins, and leaves twins. -/
theorem handle (h : Twins a b) {event : Event} (portable : event.isPortable) :
    (a.handle event).1 = (b.handle event).1 ∧ Twins (a.handle event).2 (b.handle event).2 := by
  cases event with
  | call now operation =>
    obtain ⟨hanswer, hnext⟩ := h.perform now portable
    exact ⟨congrArg (Reply.mk []) hanswer, hnext⟩
  | block block =>
    obtain ⟨hanswers, hresult, hnext⟩ := h.withTransaction (List.all_eq_true.1 portable)
    refine ⟨?_, hnext⟩
    rw [Session.handle, Session.handle]
    dsimp only
    rw [hanswers, hresult]
  | begin => exact h.moved h.begin
  | commit => exact h.moved h.commit
  | rollback => exact h.moved h.rollback
  | endShared =>
    rw [Session.handle, Session.handle, Session.endShared, Session.endShared, h.isOpen]
    exact ⟨rfl, h⟩
  | abandon => exact h.moved (.inr ⟨_, _, rfl, rfl, h.abandon⟩)
  | migrate =>
    rw [Session.handle, Session.handle, h.migrate]
    exact ⟨rfl, h⟩
  | lock | unlock => exact ⟨rfl, h.catalog, h.saved, rfl⟩
  | reopen => exact h.moved h.reopen

/-- Twins answer a portable history alike. -/
theorem trace (h : Twins a b) {history : List Event}
    (portable : ∀ event ∈ history, event.isPortable) : a.trace history = b.trace history := by
  induction history generalizing a b with
  | nil => rfl
  | cons event history ih =>
    obtain ⟨hevent, hhistory⟩ := List.forall_mem_cons.1 portable
    obtain ⟨hreply, hnext⟩ := h.handle hevent
    rw [Session.trace, Session.trace]
    dsimp only
    rw [hreply, hnext.catalog, ih hnext hhistory]

end Twins

/-- The store answers the same over both engines, and keeps the same tables: for every history of
calls that both can run, each reply is the same, and so are all tables after it. -/
theorem trace_postgres_eq_trace_sqlite {history : List Event}
    (portable : ∀ event ∈ history, event.isPortable) :
    (fresh .postgres).trace history = (fresh .sqlite).trace history :=
  (Twins.fresh .postgres .sqlite).trace portable

/-- A placeholder that a block fills, and a row that is deleted and created again. -/
theorem trace_postgres_eq_trace_sqlite_placeholder :
    let filled : NarInfo.Draft := { hash := "h", url := some "u", narSize := some 7 }
    let history : List Event :=
      [.call .epoch (.write (.createNarInfo (placeholder "h"))),
        .block (.ofCalls [(.epoch, .write (.createNarInfo filled)),
          (.epoch, .write (.addReferences 1 ["r"]))]),
        .call .epoch (.write (.updateNarInfo (placeholder "absent"))),
        .call .epoch (.write (.deleteNarInfoByHash "h")),
        .call .epoch (.write (.createNarInfo filled))]
    (∀ event ∈ history, event.isPortable) ∧
      (fresh .postgres).trace history = (fresh .sqlite).trace history := by
  intro filled history
  have hportable : ∀ event ∈ history, event.isPortable := by decide
  exact ⟨hportable, trace_postgres_eq_trace_sqlite hportable⟩

end Session

end NarIndex.Store
