import NarIndex.Proofs.Store.Edits
import NarIndex.Proofs.Store.Transaction

/-!
# NarIndex.Proofs.Store.Failure

Failed calls leave no trace.  A statement that fails changes nothing, and a call that takes a list
takes back the batches before the one that failed.  A call that creates or updates a row goes on
after its statement, and reads the row: there it cannot fail any more, since the tables that the
statement leaves are well formed, and the row is one of theirs; only an update finds that there is
no such row, and then it has changed none (`Change.run_leavesNoTrace`).  So on a plain handle
whatever fails leaves the store as it was (`Session.Reachable.handle_of_error`).
-/

namespace NarIndex.Store

open Catalog (Value Write Readable Keepable Sound)

/-! ## failures that leave no trace -/

/-- If an outcome is a failure, the tables are as they were. -/
def Outcome.LeavesNoTrace {α : Type} (catalog : Catalog) (outcome : Outcome α) : Prop :=
  ∀ error, outcome.1 = .error error → outcome.2 = catalog

namespace Outcome.LeavesNoTrace

variable {α β : Type} {catalog : Catalog}

/-- A failure without any statement. -/
theorem of_error (error : StoreError) :
    LeavesNoTrace catalog ((.error error, catalog) : Outcome α) :=
  fun _ _ => rfl

/-- A success. -/
theorem of_ok (answer : α) (after : Catalog) :
    LeavesNoTrace catalog ((.ok answer, after) : Outcome α) := by
  intro error h
  contradiction

/-- A call that leaves no trace leaves none with another answer. -/
theorem map {outcome : Outcome α} (h : outcome.LeavesNoTrace catalog) (f : α → β) :
    (outcome.map f).LeavesNoTrace catalog :=
  fun error hmap => h error (map_eq_error hmap)

/-- A statement that fails changes nothing. -/
theorem write (context : Context) (during : String) (statement : Write α) (catalog : Catalog) :
    (context.write during statement catalog).LeavesNoTrace catalog := by
  unfold Context.write
  split
  · exact of_error _
  · split
    · exact of_ok _ _
    · exact of_error _

/-- A call that goes on after a statement, and after that leaves no trace of either. -/
theorem write_andThen {context : Context} {during : String} {statement : Write α}
    {next : α → Catalog → Outcome β}
    (hnext : ∀ answer after, statement catalog = .ok (answer, after) →
      (next answer after).LeavesNoTrace catalog) :
    (Outcome.andThen (context.write during statement catalog) next).LeavesNoTrace catalog := by
  cases hlock : context.contended with
  | true =>
    rw [Context.write_of_contended hlock]
    exact of_error _
  | false =>
    cases hrun : statement catalog with
    | error error =>
      rw [Context.write_error hlock hrun]
      exact of_error _
    | ok result =>
      rw [Context.write_ok hlock hrun]
      exact hnext result.1 result.2 hrun

/-- Outside of a transaction a call takes back what it did before it failed. -/
theorem atomically {context : Context} (plain : context.joined = false)
    (call : Catalog → Outcome α) (catalog : Catalog) :
    (context.atomically call catalog).LeavesNoTrace catalog := by
  unfold Context.atomically
  split
  · exact of_ok _ _
  · rw [plain, if_neg Bool.false_ne_true]
    exact of_error _

/-- The row that a statement has returned can be read. -/
theorem returned {ρ : Type → Type} [Readable ρ] [Keepable ρ] {row : ρ Value} (h : Sound row)
    (after : Catalog) : (Store.returned row after).LeavesNoTrace catalog := by
  obtain ⟨r, hr⟩ := h.read
  rw [Store.returned, hr]
  exact of_ok r after

/-- A row that is there can be read. -/
theorem found {ρ : Type → Type} [Readable ρ] [Keepable ρ] {row : ρ Value} (h : Sound row)
    (entity key : String) (after : Catalog) :
    LeavesNoTrace catalog (Store.found entity key (some row), after) := by
  obtain ⟨r, hr⟩ := h.read
  rw [Store.found, hr]
  exact of_ok r after

end Outcome.LeavesNoTrace

/-! ## calls -/

section calls

variable (context : Context) {catalog : Catalog}

/-- A call that returns the row of a statement which succeeds does not fail any more: the tables are
well formed after the statement as well, and where they are, the row is sound. -/
theorem returning_leavesNoTrace {ρ : Type → Type} [Readable ρ] [Keepable ρ] {during : String}
    {statement : Write (ρ Value)} (h : catalog.WellFormed) (byEdit : statement.ByEdit)
    (sound : ∀ row after, statement catalog = .ok (row, after) → after.WellFormed → Sound row) :
    (Outcome.andThen (context.write during statement catalog) returned).LeavesNoTrace catalog := by
  refine .write_andThen fun row after hok => ?_
  have hafter : after.WellFormed := (byEdit.byEdits hok).keeps .edit h
  exact .returned (sound row after hok hafter) after

/-- Failing to create a NarInfo leaves no trace. -/
theorem createNarInfo_leavesNoTrace (h : catalog.WellFormed) (draft : NarInfo.Draft) :
    (createNarInfo context draft catalog).LeavesNoTrace catalog := by
  cases hdetails : detailsOf draft with
  | error error =>
    rw [createNarInfo, hdetails]
    exact .of_error error
  | ok details =>
    have hmerge :=
      Catalog.mergeNarInfo_byEdit (inRange_of_detailsOf hdetails) draft.hash context.now
    rw [createNarInfo_eq _ _ hdetails]
    exact returning_leavesNoTrace context h hmerge fun row _ hok hafter =>
      hafter.narInfos.sound row (Catalog.mem_of_mergeNarInfo hok)

theorem createNarFile_leavesNoTrace (h : catalog.WellFormed) (draft : NarFile.Draft) :
    (createNarFile context draft catalog).LeavesNoTrace catalog := by
  cases hsize : storable "file_size" draft.fileSize with
  | error error =>
    rw [createNarFile, hsize]
    exact .of_error error
  | ok fileSize =>
    cases hchunks : storable "total_chunks" draft.totalChunks with
    | error error =>
      rw [createNarFile, hsize, hchunks]
      exact .of_error error
    | ok totalChunks =>
      have hmerge := Catalog.mergeNarFile_byEdit (fits_of_storable hsize)
        (fits_of_storable hchunks) draft.key context.now
      rw [createNarFile_eq _ _ hsize hchunks]
      exact returning_leavesNoTrace context h hmerge fun row _ hok hafter =>
        hafter.narFiles.sound row (Catalog.mem_of_mergeNarFile hok)

theorem createChunk_leavesNoTrace (h : catalog.WellFormed) (hash : String) (size : UInt32) :
    (createChunk context hash size catalog).LeavesNoTrace catalog := by
  have hmerge := Catalog.mergeChunk_byEdit (fits_chunkSize size) hash context.now
  rw [createChunk_eq]
  exact returning_leavesNoTrace context h hmerge fun row _ hok hafter =>
    hafter.chunks.sound row (Catalog.mem_of_mergeChunk hok)

theorem updateNarInfo_leavesNoTrace (h : catalog.WellFormed) (draft : NarInfo.Draft) :
    (updateNarInfo context draft catalog).LeavesNoTrace catalog := by
  cases hdetails : detailsOf draft with
  | error error =>
    rw [updateNarInfo, hdetails]
    exact .of_error error
  | ok details =>
    rw [updateNarInfo_eq _ _ hdetails]
    refine .write_andThen fun row? after hamend => ?_
    have hedits :=
      (Catalog.amendNarInfoReturning_byEdit (inRange_of_detailsOf hdetails) _ _).byEdits hamend
    have hafter : after.WellFormed := hedits.keeps .edit h
    rw [Catalog.amendNarInfoReturning_eq] at hamend
    cases hamend
    cases hrow : catalog.narInfoByHash? draft.hash with
    | none =>
      -- the call fails after its statement, which has changed no row
      rw [Catalog.withAmended_of_none hrow]
      exact .of_error _
    | some row =>
      have hmem := Catalog.mem_withAmended hrow details context.now.micros
      exact .found (hafter.narInfos.sound _ hmem) _ _ _

theorem createSetting_leavesNoTrace (h : catalog.WellFormed) (key value : String) :
    (createSetting context key value catalog).LeavesNoTrace catalog := by
  refine .write_andThen fun _ after hinsert => ?_
  have hedits := (Catalog.insertSetting_byEdit _ _ _).byEdits hinsert
  have hafter : after.WellFormed := hedits.keeps .edit h
  obtain ⟨row, hmem, hfound⟩ := Catalog.settingByKey?_of_insertSetting hinsert
  rw [settingByKey, hfound]
  exact .found (hafter.settings.sound row hmem) _ _ _

/-- A statement that fails leaves no trace. -/
theorem countedWith_leavesNoTrace (what : String) (size : UInt64) (statement : Int → Write Nat) :
    (countedWith context what size statement catalog).LeavesNoTrace catalog := by
  unfold countedWith
  split
  · exact .map (.write _ _ _ _) _
  · exact .of_error _

/-- On a plain handle, failing to link a list leaves no trace. -/
theorem linkFileToChunks_leavesNoTrace (plain : context.joined = false) (narFile : Int)
    (chunks indices : List Int) :
    (linkFileToChunks context narFile chunks indices catalog).LeavesNoTrace catalog := by
  unfold linkFileToChunks
  split
  · exact .of_error _
  · exact .atomically plain _ catalog

/-- Outside of a transaction a call that writes well-formed tables leaves no trace if it fails. -/
theorem Change.run_leavesNoTrace (h : catalog.WellFormed) (plain : context.joined = false)
    (change : Change) : (change.run context catalog).LeavesNoTrace catalog := by
  cases change with
  | createNarInfo draft => exact (createNarInfo_leavesNoTrace context h draft).map _
  | updateNarInfo draft => exact (updateNarInfo_leavesNoTrace context h draft).map _
  | createNarFile draft => exact (createNarFile_leavesNoTrace context h draft).map _
  | createChunk hash size => exact (createChunk_leavesNoTrace context h hash size).map _
  | createSetting key value => exact (createSetting_leavesNoTrace context h key value).map _
  | setNarInfoFileSize | setTotalChunks => exact countedWith_leavesNoTrace _ _ _ _
  | addReferences | addSignatures => exact .map (.atomically plain _ catalog) _
  | linkFileToChunks => exact .map (linkFileToChunks_leavesNoTrace context plain _ _ _) _
  | _ => exact .map (.write _ _ _ _) _

/-- On a plain handle no call that fails leaves a trace. -/
theorem Operation.run_leavesNoTrace (h : catalog.WellFormed) (plain : context.joined = false)
    (operation : Operation) : (operation.run context catalog).LeavesNoTrace catalog := by
  cases operation with
  | read query => exact fun _ _ => rfl
  | write change => exact change.run_leavesNoTrace context h plain

end calls

/-! ## events -/

namespace Session

/-- An attempt to move a handle that fails does not move it. -/
theorem moved_of_error {session : Session} {attempt : Except StoreError Session}
    {error : StoreError} (failed : (session.moved attempt).1.result = .error error) :
    (session.moved attempt).2 = session := by
  cases attempt with
  | ok next => contradiction
  | error error => rfl

/-- Whatever fails on a plain handle leaves the store as it was: each call of the store, whichever
error it has and wherever in its work, and also a block of calls. -/
theorem Reachable.handle_of_error {session : Session} (h : session.Reachable)
    (plain : session.saved = none) {event : Event} {error : StoreError}
    (failed : (session.handle event).1.result = .error error) :
    (session.handle event).2 = session := by
  cases event with
  | call now operation =>
    have hjoined : (session.context now).joined = false := by
      rw [context, isOpen, plain, Option.isSome_none]
    have hcatalog :=
      operation.run_leavesNoTrace (session.context now) h.wellFormed.catalog hjoined error failed
    change (session.perform now operation).2 = session
    rw [perform_snd, hcatalog]
  | block block =>
    have hresult := map_eq_error failed
    change (session.withTransaction block).session = session
    rw [withTransaction_of_plain plain] at hresult ⊢
    split at hresult
    · rfl
    · contradiction
  | begin | commit | rollback | abandon | lock | unlock | reopen => exact moved_of_error failed
  | endShared | migrate => rfl

/-- A whole batch of links to a chunk, and after that a link to a chunk that is not there. -/
theorem handle_of_error_linkFileToChunks :
    let session := (fresh .sqlite).after
      [.call .epoch (.write (.createNarFile ⟨⟨"a", "xz", ""⟩, 7, 0⟩)),
        .call .epoch (.write (.createChunk "c" 7))]
    let event := Event.call .epoch (.write
      (.linkFileToChunks 1 (List.replicate 300 1 ++ [2]) (List.replicate 300 0 ++ [1])))
    session.Reachable ∧ session.saved = none ∧
      (session.handle event).1.result
        = .error (.database "link_nar_file_to_chunks" .foreignKeyViolated) ∧
      (session.handle event).2 = session := by
  intro session event
  have h : session.Reachable := (Reachable.fresh .sqlite).after _
  have plain : session.saved = none := rfl
  have failed : (session.handle event).1.result
      = .error (.database "link_nar_file_to_chunks" .foreignKeyViolated) := by
    decide +kernel
  exact ⟨h, plain, failed, h.handle_of_error plain failed⟩

end Session

end NarIndex.Store
