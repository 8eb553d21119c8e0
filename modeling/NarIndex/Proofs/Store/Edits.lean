import NarIndex.Proofs.Catalog.WellFormed
import NarIndex.Proofs.Result
import NarIndex.Proofs.Store.Engine

/-!
# NarIndex.Proofs.Store.Edits

A call of the store gets from the tables before it to those after it by one edit, or by relations
that come in, whether it succeeds or fails (`Change.run_effect`).  So what empty tables have and
every edit keeps, the tables of every store have that some history leads to
(`Session.Reachable.holds`); above all, they are well formed (`Session.Reachable.wellFormed`).
-/

namespace NarIndex.Store

open Catalog (Edit Relates Effect Write Fits)

/-! ## statements that a call runs -/

section statements

variable {α β : Type} {R : Catalog → Catalog → Prop}

/-- A call that runs a statement leads where the statement leads, if it leads anywhere. -/
theorem Context.write_leads (context : Context) (during : String)
    (refl : ∀ catalog, R catalog catalog) {statement : Write α} {catalog : Catalog}
    (h : ∀ {answer after}, statement catalog = .ok (answer, after) → R catalog after) :
    R catalog (context.write during statement catalog).2 := by
  unfold write
  split
  · exact refl catalog
  · split
    · next hok => exact h hok
    · exact refl catalog

/-- A call that goes on after another one, and changes no more tables. -/
theorem Outcome.andThen_snd {outcome : Outcome α} {next : α → Catalog → Outcome β}
    (h : ∀ answer after, (next answer after).2 = after) : (outcome.andThen next).2 = outcome.2 := by
  obtain ⟨result, after⟩ := outcome
  cases result with
  | ok answer => exact h answer after
  | error error => rfl

/-- Statements one after the other lead where they lead together. -/
theorem Context.writeAll_leads (context : Context) (during : String)
    (refl : ∀ catalog, R catalog catalog) (trans : ∀ {a b c}, R a b → R b c → R a c)
    {statements : List (Write Unit)}
    (h : ∀ statement ∈ statements, ∀ {catalog answer after},
      statement catalog = .ok (answer, after) → R catalog after) (catalog : Catalog) :
    R catalog (context.writeAll during statements catalog).2 := by
  induction statements generalizing catalog with
  | nil => exact refl catalog
  | cons statement statements ih =>
    obtain ⟨hhead, htail⟩ := List.forall_mem_cons.1 h
    have hwrite : R catalog (context.write during statement catalog).2 :=
      context.write_leads during refl hhead
    unfold writeAll Outcome.andThen
    split
    · next heq =>
      rw [heq] at hwrite
      exact trans hwrite (ih htail _)
    · next heq =>
      rw [heq] at hwrite
      exact hwrite

/-- A call that takes back what it did before it failed leads where it would lead without that, if
it leads anywhere. -/
theorem Context.atomically_leads (context : Context) (refl : ∀ catalog, R catalog catalog)
    {call : Catalog → Outcome α} {catalog : Catalog} (h : R catalog (call catalog).2) :
    R catalog (context.atomically call catalog).2 := by
  unfold atomically
  split
  · next heq =>
    rw [heq] at h
    exact h
  · next heq =>
    rw [heq] at h
    split
    · exact h
    · exact refl catalog

/-- A call that runs a statement on rows. -/
theorem Context.write_effect (context : Context) (during : String) {statement : Write α}
    (h : statement.ByEdit) (catalog : Catalog) :
    Effect catalog (context.write during statement catalog).2 :=
  .of_editOrNone (context.write_leads during (fun _ => .refl) fun hok => h hok)

/-- A call that runs a statement on relations. -/
theorem Context.write_relates (context : Context) (during : String) {link : Type}
    {add : link → Catalog → Except DriverError Catalog}
    (h : ∀ {link before after}, add link before = .ok after → Relates before after)
    (links : List link) (catalog : Catalog) :
    Relates catalog (context.write during (Catalog.addAll add links) catalog).2 :=
  context.write_leads during .refl (Catalog.addAll_relates h)

end statements

/-! ## sizes -/

/-- A size that was accepted fits its column. -/
theorem fits_of_storable {what : String} {size : UInt64} {n : Int}
    (h : storable what size = .ok n) : Fits Catalog.maxInteger n := by
  unfold storable at h
  split at h
  · next hle =>
    cases h
    exact ⟨Int.natCast_nonneg _, hle⟩
  · contradiction

theorem fits_of_storableOptional {what : String} {size : Option UInt64} {n : Option Int}
    (h : storableOptional what size = .ok n) : ∀ m ∈ n, Fits Catalog.maxInteger m := by
  cases size with
  | none =>
    cases h
    rintro m ⟨⟩
  | some size =>
    obtain ⟨stored, hstored, rfl⟩ := map_eq_ok h
    rintro m ⟨⟩
    exact fits_of_storable hstored

/-- The sizes of a draft that is accepted are in their ranges. -/
theorem inRange_of_detailsOf {draft : NarInfo.Draft} {details : NarInfo.Details Int}
    (h : detailsOf draft = .ok details) : details.InRange := by
  obtain ⟨fileSize, hfile, h⟩ := bind_eq_ok h
  obtain ⟨narSize, hnar, h⟩ := bind_eq_ok h
  cases h
  exact ⟨fits_of_storableOptional hfile, fits_of_storableOptional hnar⟩

/-- The size of a chunk always fits. -/
theorem fits_chunkSize (size : UInt32) : Fits Chunk.maxSize size.toNat := by
  have hlt := size.toNat_lt
  refine ⟨Int.natCast_nonneg _, ?_⟩
  rw [Chunk.maxSize]
  omega

/-! ## calls -/

section calls

variable (context : Context) (catalog : Catalog)

/-- A call that creates a NarInfo leads where merging leads, if it leads anywhere. -/
theorem createNarInfo_leads {R : Catalog → Catalog → Prop} (refl : ∀ catalog, R catalog catalog)
    {draft : NarInfo.Draft}
    (h : ∀ {details row after}, detailsOf draft = .ok details →
      Catalog.mergeNarInfo draft.hash details context.now.micros catalog = .ok (row, after) →
        R catalog after) : R catalog (createNarInfo context draft catalog).2 := by
  cases hdetails : detailsOf draft with
  | error error =>
    rw [createNarInfo, hdetails]
    exact refl catalog
  | ok details =>
    rw [createNarInfo_eq _ _ hdetails, Outcome.andThen_snd fun _ _ => rfl]
    exact context.write_leads _ refl (h hdetails)

/-- Creating a NarInfo comes to no more than one call may. -/
theorem createNarInfo_effect (draft : NarInfo.Draft) :
    Effect catalog (createNarInfo context draft catalog).2 :=
  createNarInfo_leads context catalog .none fun hdetails hok =>
    .of_editOrNone (Catalog.mergeNarInfo_byEdit (inRange_of_detailsOf hdetails) _ _ hok)

theorem updateNarInfo_effect (draft : NarInfo.Draft) :
    Effect catalog (updateNarInfo context draft catalog).2 := by
  cases h : detailsOf draft with
  | error error =>
    rw [updateNarInfo, h]
    exact .none catalog
  | ok details =>
    have hamend :=
      Catalog.amendNarInfoReturning_byEdit (inRange_of_detailsOf h) draft.hash context.now
    rw [updateNarInfo_eq _ _ h, Outcome.andThen_snd fun _ _ => rfl]
    exact context.write_effect _ hamend catalog

/-- A call that creates a NAR file leads where merging leads, if it leads anywhere. -/
theorem createNarFile_leads {R : Catalog → Catalog → Prop} (refl : ∀ catalog, R catalog catalog)
    {draft : NarFile.Draft}
    (h : ∀ {fileSize totalChunks row after}, Fits Catalog.maxInteger fileSize →
      Fits Catalog.maxInteger totalChunks →
      Catalog.mergeNarFile draft.key fileSize totalChunks context.now.micros catalog
          = .ok (row, after) →
        R catalog after) : R catalog (createNarFile context draft catalog).2 := by
  cases hsize : storable "file_size" draft.fileSize with
  | error error =>
    rw [createNarFile, hsize]
    exact refl catalog
  | ok fileSize =>
    cases hchunks : storable "total_chunks" draft.totalChunks with
    | error error =>
      rw [createNarFile, hsize, hchunks]
      exact refl catalog
    | ok totalChunks =>
      rw [createNarFile_eq _ _ hsize hchunks, Outcome.andThen_snd fun _ _ => rfl]
      exact context.write_leads _ refl (h (fits_of_storable hsize) (fits_of_storable hchunks))

theorem createNarFile_effect (draft : NarFile.Draft) :
    Effect catalog (createNarFile context draft catalog).2 :=
  createNarFile_leads context catalog .none fun sizeFits chunksFit hok =>
    .of_editOrNone (Catalog.mergeNarFile_byEdit sizeFits chunksFit _ _ hok)

/-- A call that creates a chunk leads where merging leads, if it leads anywhere. -/
theorem createChunk_leads {R : Catalog → Catalog → Prop} (refl : ∀ catalog, R catalog catalog)
    {hash : String} {size : UInt32}
    (h : ∀ {row after},
      Catalog.mergeChunk hash size.toNat context.now.micros catalog = .ok (row, after) →
        R catalog after) : R catalog (createChunk context hash size catalog).2 := by
  rw [createChunk_eq, Outcome.andThen_snd fun _ _ => rfl]
  exact context.write_leads _ refl h

theorem createChunk_effect (hash : String) (size : UInt32) :
    Effect catalog (createChunk context hash size catalog).2 :=
  createChunk_leads context catalog .none fun hok =>
    .of_editOrNone (Catalog.mergeChunk_byEdit (fits_chunkSize size) _ _ hok)

theorem createSetting_effect (key value : String) :
    Effect catalog (createSetting context key value catalog).2 := by
  have hinsert := Catalog.insertSetting_byEdit key value context.now
  rw [createSetting, Outcome.andThen_snd fun _ _ => rfl]
  exact context.write_effect _ hinsert catalog

theorem countedWith_effect {what : String} {size : UInt64} {statement : Int → Write Nat}
    (h : ∀ {n}, Fits Catalog.maxInteger n → (statement n).ByEdit) :
    Effect catalog (countedWith context what size statement catalog).2 := by
  unfold countedWith
  split
  · next n hsize => exact context.write_effect _ (h (fits_of_storable hsize)) catalog
  · exact .none catalog

/-- However many batches get in, they bring relations only. -/
theorem addInBatches_relates {α : Type} (during : String)
    {add : α → Catalog → Except DriverError Catalog}
    (h : ∀ {link before after}, add link before = .ok after → Relates before after)
    (links : List α) : Relates catalog (addInBatches context during add links catalog).2 := by
  refine context.atomically_leads .refl (context.writeAll_leads during .refl .trans ?_ catalog)
  intro statement hstatement
  obtain ⟨batch, -, rfl⟩ := List.mem_map.1 hstatement
  exact Catalog.addAll_relates h

/-- Linking a list brings relations only. -/
theorem linkFileToChunks_relates (narFile : Int) (chunks indices : List Int) :
    Relates catalog (linkFileToChunks context narFile chunks indices catalog).2 := by
  unfold linkFileToChunks
  split
  · exact .refl catalog
  · exact addInBatches_relates context catalog _ Catalog.linkChunk_relates _

/-- A call that writes comes to an edit, or to relations that come in, whether it succeeds or
fails. -/
theorem Change.run_effect (change : Change) : Effect catalog (change.run context catalog).2 := by
  cases change with
  | createNarInfo draft => exact createNarInfo_effect context catalog draft
  | updateNarInfo draft => exact updateNarInfo_effect context catalog draft
  | setNarInfoFileSize hash size =>
    exact countedWith_effect context catalog fun fits =>
      Catalog.updateNarInfos_byEdit _ (.resized fits)
  | touchNarInfo hash =>
    exact context.write_effect _ (Catalog.updateNarInfos_byEdit _ (.touched context.now)) catalog
  | deleteNarInfoByHash | deleteNarInfoById | deleteOrphanedNarInfos =>
    exact context.write_effect _ (Catalog.deleteNarInfos_byEdit _) catalog
  | linkNarInfoToFile narInfo narFile =>
    exact .relations (context.write_relates _ Catalog.linkFile_relates _ catalog)
  | addReference narInfo reference =>
    exact .relations (context.write_relates _ Catalog.addReference_relates _ catalog)
  | addReferences narInfo references =>
    exact .relations (addInBatches_relates context catalog _ Catalog.addReference_relates _)
  | addSignature narInfo signature =>
    exact .relations (context.write_relates _ Catalog.addSignature_relates _ catalog)
  | addSignatures narInfo signatures =>
    exact .relations (addInBatches_relates context catalog _ Catalog.addSignature_relates _)
  | createNarFile draft => exact createNarFile_effect context catalog draft
  | touchNarFile key =>
    exact context.write_effect _ (Catalog.updateNarFiles_byEdit _ (.touched context.now)) catalog
  | deleteNarFileByKey | deleteNarFileById | deleteOrphanedFiles =>
    exact context.write_effect _ (Catalog.deleteNarFiles_byEdit _) catalog
  | setTotalChunks narFile totalChunks =>
    exact countedWith_effect context catalog fun fits =>
      Catalog.updateNarFiles_byEdit _ (.chunked fits)
  | setChunkingStarted narFile =>
    exact context.write_effect _ (Catalog.updateNarFiles_byEdit _ (.chunkingStarted context.now))
      catalog
  | setVerified narFile verifiedAt =>
    exact context.write_effect _ (Catalog.updateNarFiles_byEdit _ (.verified verifiedAt)) catalog
  | createChunk hash size => exact createChunk_effect context catalog hash size
  | deleteChunkById | deleteOrphanedChunks =>
    exact context.write_effect _ (Catalog.deleteChunks_byEdit _) catalog
  | linkFileToChunk narFile chunk index =>
    exact .relations (context.write_relates _ Catalog.linkChunk_relates _ catalog)
  | linkFileToChunks narFile chunks indices =>
    exact .relations (linkFileToChunks_relates context catalog narFile chunks indices)
  | setSetting key value =>
    exact context.write_effect _ (Catalog.mergeSetting_byEdit key value context.now) catalog
  | createSetting key value => exact createSetting_effect context catalog key value

/-- No call comes to more than one call may. -/
theorem Operation.run_effect (operation : Operation) :
    Effect catalog (operation.run context catalog).2 := by
  cases operation with
  | read query => exact .none catalog
  | write change => exact change.run_effect context catalog

end calls

/-! ## histories -/

namespace Session

/-- What holds of the tables that a handle sees, and of those that its transaction began with. -/
structure Holds (P : Catalog → Prop) (session : Session) : Prop where
  catalog : P session.catalog
  saved : ∀ start ∈ session.saved, P start

namespace Holds

variable {P : Catalog → Prop} {session : Session}

/-- A call keeps what edits keep. -/
theorem perform (keeps : ∀ {before after}, Edit before after → P before → P after)
    (h : session.Holds P) (now : Time.Timestamp) (operation : Operation) :
    (session.perform now operation).2.Holds P := by
  have hedits := (operation.run_effect (session.context now) session.catalog).edits
  exact ⟨hedits.keeps keeps h.catalog, h.saved⟩

/-- A handle that a transaction has been opened on. -/
theorem begin {opened : Session} (h : session.Holds P) (hopened : session.begin = .ok opened) :
    opened.Holds P := by
  unfold Session.begin at hopened
  split at hopened
  · contradiction
  · cases hopened
    refine ⟨h.catalog, ?_⟩
    rintro start ⟨⟩
    exact h.catalog

/-- A handle that drops its transaction returns to the tables that this began with. -/
theorem abandon (h : session.Holds P) : session.abandon.Holds P := by
  unfold Session.abandon
  split
  · next start hsaved => exact ⟨h.saved start hsaved, by rintro start ⟨⟩⟩
  · exact h

/-- A handle that forgets the tables that its transaction began with. -/
theorem forget (h : session.Holds P) : Holds P { session with saved := none } :=
  ⟨h.catalog, by rintro start ⟨⟩⟩

theorem commit {next : Session} (h : session.Holds P) (hnext : session.commit = .ok next) :
    next.Holds P := by
  unfold Session.commit at hnext
  split at hnext
  · cases hnext
    exact h.forget
  · contradiction

theorem rollback {next : Session} (h : session.Holds P) (hnext : session.rollback = .ok next) :
    next.Holds P := by
  unfold Session.rollback at hnext
  split at hnext
  · cases hnext
    exact h.abandon
  · contradiction

theorem reopen {next : Session} (h : session.Holds P) (hnext : session.reopen = .ok next) :
    next.Holds P := by
  obtain ⟨_, -, rfl⟩ := map_eq_ok hnext
  exact h.abandon

/-- A step keeps what every edit keeps. -/
theorem step (keeps : ∀ {before after}, Edit before after → P before → P after)
    (h : session.Holds P) (now : Time.Timestamp) (step : Step) :
    (session.step now step).2.Holds P := by
  cases step with
  | call operation => exact h.perform keeps now operation
  | begin =>
    rw [Session.step]
    split
    · next opened hopened => exact h.begin hopened
    · exact h

/-- Steps keep what edits keep, whether they go on after failures or not. -/
theorem runSteps (keeps : ∀ {before after}, Edit before after → P before → P after)
    (h : session.Holds P) (tolerant : Bool) (steps : List (Time.Timestamp × Step)) :
    (session.runSteps tolerant steps).session.Holds P := by
  induction steps generalizing session with
  | nil => exact h
  | cons head steps ih =>
    obtain ⟨now, step⟩ := head
    have hnext := h.step keeps now step
    rw [Session.runSteps]
    split
    · next answer next heq =>
      rw [heq] at hnext
      exact ih hnext
    · next error next heq =>
      rw [heq] at hnext
      split
      · exact ih hnext
      · exact hnext

/-- A block keeps what every edit keeps. -/
theorem withTransaction (keeps : ∀ {before after}, Edit before after → P before → P after)
    (h : session.Holds P) (block : Block) : (session.withTransaction block).session.Holds P := by
  unfold Session.withTransaction
  split
  · exact h
  · next opened hopened =>
    have hsteps := (h.begin hopened).runSteps keeps block.tolerant block.steps
    dsimp only
    split
    · exact hsteps.abandon
    · exact hsteps.forget

theorem moved {result : Except StoreError Session} (h : session.Holds P)
    (hnext : ∀ next, result = .ok next → next.Holds P) : (session.moved result).2.Holds P := by
  cases result with
  | ok next => exact hnext next rfl
  | error error => exact h

/-- Every event keeps what edits keep. -/
theorem handle (keeps : ∀ {before after}, Edit before after → P before → P after)
    (h : session.Holds P) (event : Event) : (session.handle event).2.Holds P := by
  cases event with
  | call now operation => exact h.perform keeps now operation
  | block block => exact h.withTransaction keeps block
  | begin => exact h.moved fun next => h.begin
  | commit => exact h.moved fun next => h.commit
  | rollback => exact h.moved fun next => h.rollback
  | reopen => exact h.moved fun next => h.reopen
  | abandon => exact h.abandon
  | endShared | migrate => exact h
  | lock | unlock => exact ⟨h.catalog, h.saved⟩

end Holds

/-- A store stays reachable in all its calls. -/
theorem Reachable.of_perform {session later : Session} (h : session.Reachable)
    {now : Time.Timestamp} {operation : Operation} {answer : Except StoreError Answer}
    (hperform : session.perform now operation = (answer, later)) : later.Reachable := by
  have hnext := h.handle (.call now operation)
  rw [Session.handle, hperform] at hnext
  exact hnext

/-- What empty tables have and every edit keeps holds of every store that some history leads to. -/
theorem Reachable.holds {P : Catalog → Prop} (empty : P {})
    (keeps : ∀ {before after}, Edit before after → P before → P after) {session : Session}
    (h : Reachable session) : session.Holds P := by
  induction h with
  | fresh dialect => exact ⟨empty, by rintro start ⟨⟩⟩
  | handle event _ ih => exact ih.handle keeps event

/-- The tables of every store that some history leads to are well formed. -/
theorem Reachable.wellFormed {session : Session} (h : Reachable session) :
    session.Holds Catalog.WellFormed :=
  h.holds .empty .edit

end Session

end NarIndex.Store
