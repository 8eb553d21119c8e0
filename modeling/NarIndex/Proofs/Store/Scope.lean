import NarIndex.Proofs.Store.Edits

/-!
# NarIndex.Proofs.Store.Scope

What a call leaves alone.  A NAR file comes in by no other call than the one that creates it, and so
does a chunk; a setting comes in or changes by no other calls than the two that name its key
(`Operation.run_inScope`).
-/

namespace NarIndex

open Catalog (Value Write mapWhere Relates)

/-- The NAR file and the chunk that may come in, and the setting that may come in or change, by
their natural keys. -/
structure Catalog.Scope where
  narFile : Option NarFile.Key := none
  chunk : Option String := none
  setting : Option String := none

namespace Catalog

variable {scope : Scope} {before after : Catalog}

/-- The tables differ in nothing that is out of scope, as far as scopes go. -/
structure InScope (scope : Scope) (before after : Catalog) : Prop where
  narFiles : ∀ row ∈ after.narFiles,
    row.key ∈ before.narFiles.map (·.key) ∨ scope.narFile = some row.key
  chunks : ∀ row ∈ after.chunks,
    row.hash ∈ before.chunks.map (·.hash) ∨ scope.chunk = some row.hash
  settings : ∀ key, scope.setting ≠ some key → after.settingByKey? key = before.settingByKey? key

theorem InScope.refl (scope : Scope) (catalog : Catalog) : InScope scope catalog catalog where
  narFiles _ hrow := .inl (List.mem_map_of_mem hrow)
  chunks _ hrow := .inl (List.mem_map_of_mem hrow)
  settings _ _ := rfl

/-- All else is in no scope. -/
theorem InScope.of_eq (narFiles : after.narFiles = before.narFiles)
    (chunks : after.chunks = before.chunks) (settings : after.settings = before.settings) :
    InScope scope before after where
  narFiles row hrow := .inl (List.mem_map_of_mem (by rwa [← narFiles]))
  chunks row hrow := .inl (List.mem_map_of_mem (by rwa [← chunks]))
  settings key _ := by rw [settingByKey?, settingByKey?, settings]

/-- Relations are in every scope. -/
theorem Relates.inScope (h : Relates before after) : InScope scope before after :=
  .of_eq h.narFiles h.chunks h.settings

/-! ## statements -/

/-- A statement that leaves alone what is out of scope. -/
def Write.InScope {α : Type} (scope : Scope) (statement : Write α) : Prop :=
  ∀ ⦃catalog answer after⦄, statement catalog = .ok (answer, after) →
    Catalog.InScope scope catalog after

theorem Write.inScope_always {α : Type} {f : Catalog → α × Catalog}
    (h : ∀ catalog, Catalog.InScope scope catalog (f catalog).2) :
    Write.InScope scope (.always f) := by
  intro catalog answer after hok
  have hafter : (f catalog).2 = after := congrArg (·.2) (Except.ok.inj hok)
  rw [← hafter]
  exact h catalog

section statements

variable (details : NarInfo.Details Int) (now : Int)

/-- NarInfos are out of no scope: they may change. -/
theorem updateNarInfos_inScope (p : NarInfo Value → Bool) (f : NarInfo Value → NarInfo Value) :
    (updateNarInfos p f).InScope scope :=
  Write.inScope_always fun _ => .of_eq rfl rfl rfl

theorem deleteNarInfos_inScope (p : Catalog → NarInfo Value → Bool) :
    (deleteNarInfos p).InScope scope :=
  Write.inScope_always fun _ => .of_eq rfl rfl rfl

theorem amendNarInfoReturning_inScope (hash : String) :
    (amendNarInfoReturning hash details now).InScope scope :=
  Write.inScope_always fun _ => .of_eq rfl rfl rfl

theorem mergeNarInfo_inScope (hash : String) : (mergeNarInfo hash details now).InScope scope := by
  refine Write.inScope_always fun catalog => ?_
  split
  · exact .of_eq rfl rfl rfl
  · exact .of_eq rfl rfl rfl

theorem updateNarFiles_inScope (p : NarFile Value → Bool) {f : NarFile Value → NarFile Value}
    (alters : NarFile.Alteration f) : (updateNarFiles p f).InScope scope := by
  refine Write.inScope_always fun catalog => ⟨fun row hrow => .inl ?_, ?_, fun _ _ => rfl⟩
  · have hkeys : (mapWhere p f catalog.narFiles).map (·.key) = catalog.narFiles.map (·.key) :=
      map_mapWhere alters.key_eq
    rw [← hkeys]
    exact List.mem_map_of_mem hrow
  · exact (InScope.refl scope catalog).chunks

theorem deleteNarFiles_inScope (p : Catalog → NarFile Value → Bool) :
    (deleteNarFiles p).InScope scope := by
  refine Write.inScope_always fun catalog => ⟨fun row hrow => .inl ?_, ?_, fun _ _ => rfl⟩
  · exact List.mem_map_of_mem (List.mem_of_mem_filter hrow)
  · exact (InScope.refl scope catalog).chunks

/-- Merging brings in no NAR file but that of the key. -/
theorem mergeNarFile_inScope (key : NarFile.Key) (fileSize totalChunks : Int) :
    (mergeNarFile key fileSize totalChunks now).InScope { narFile := some key } := by
  refine Write.inScope_always fun catalog => ?_
  have hsame := InScope.refl { narFile := some key } catalog
  split
  · exact ⟨forall_append_singleton hsame.narFiles (.inr rfl), hsame.chunks, fun _ _ => rfl⟩
  · exact hsame

theorem deleteChunks_inScope (p : Catalog → Chunk Value → Bool) :
    (deleteChunks p).InScope scope := by
  refine Write.inScope_always fun catalog => ⟨?_, fun row hrow => .inl ?_, fun _ _ => rfl⟩
  · exact (InScope.refl scope catalog).narFiles
  · exact List.mem_map_of_mem (List.mem_of_mem_filter hrow)

theorem mergeChunk_inScope (hash : String) (size : Int) :
    (mergeChunk hash size now).InScope { chunk := some hash } := by
  refine Write.inScope_always fun catalog => ?_
  have hsame := InScope.refl { chunk := some hash } catalog
  split
  · exact ⟨hsame.narFiles, forall_append_singleton hsame.chunks (.inr rfl), fun _ _ => rfl⟩
  · exact hsame

/-- A setting that comes in is found by no other key. -/
theorem settingByKey?_addSetting_of_ne {key other : String} (hne : key ≠ other) (value : String)
    (catalog : Catalog) :
    (catalog.addSetting key value now).settingByKey? other = catalog.settingByKey? other := by
  simp [settingByKey?, addSetting, Setting.fresh, List.find?_append, hne]

/-- A setting that is overwritten is found by no other key. -/
theorem find?_overwritten_of_ne {key other : String} (hne : key ≠ other) (value : String)
    (settings : List (Setting Value)) :
    (mapWhere (·.key == key) (·.overwritten value (.integer now)) settings).find? (·.key == other)
      = settings.find? (·.key == other) := by
  have hkept (row : Setting Value) :
      ((row.overwritten value (.integer now)).key == other) = (row.key == other) := rfl
  rw [find?_mapWhere hkept]
  cases hfound : settings.find? (·.key == other) with
  | none => rfl
  | some row =>
    have hkey : row.key = other := by simpa using List.find?_some hfound
    simp [hkey, Ne.symm hne]

/-- Inserting sets no setting but that of the key. -/
theorem insertSetting_inScope (key value : String) :
    (insertSetting key value now).InScope { setting := some key } := by
  intro catalog answer after hok
  have hsame := InScope.refl { setting := some key } catalog
  unfold insertSetting at hok
  split at hok
  · contradiction
  · cases hok
    refine ⟨hsame.narFiles, hsame.chunks, fun other hother => ?_⟩
    exact settingByKey?_addSetting_of_ne now (fun heq => hother (congrArg some heq)) value catalog

theorem mergeSetting_inScope (key value : String) :
    (mergeSetting key value now).InScope { setting := some key } := by
  refine Write.inScope_always fun catalog => ?_
  have hsame := InScope.refl { setting := some key } catalog
  have hne {other : String} (hother : some key ≠ some other) : key ≠ other :=
    fun heq => hother (congrArg some heq)
  split
  · exact ⟨hsame.narFiles, hsame.chunks, fun other hother =>
      find?_overwritten_of_ne now (hne hother) value catalog.settings⟩
  · exact ⟨hsame.narFiles, hsame.chunks, fun other hother =>
      settingByKey?_addSetting_of_ne now (hne hother) value catalog⟩

end statements

end Catalog

/-! ## calls -/

namespace Store

open Catalog (InScope)

/-- What a call that writes may bring in or set. -/
def Change.scope : Change → Catalog.Scope
  | .createNarFile draft => { narFile := some draft.key }
  | .createChunk hash _ => { chunk := some hash }
  | .setSetting key _ | .createSetting key _ => { setting := some key }
  | _ => {}

/-- What a call may bring in or set. -/
def Operation.scope : Operation → Catalog.Scope
  | .read _ => {}
  | .write change => change.scope

section calls

variable (context : Context) (catalog : Catalog)

/-- A statement in scope leaves the catalog in scope, whether it succeeds or not. -/
theorem Context.write_inScope {α : Type} {scope : Catalog.Scope} (during : String)
    {statement : Write α} (h : statement.InScope scope) :
    InScope scope catalog (context.write during statement catalog).2 :=
  context.write_leads during (.refl scope) fun hok => h hok

theorem updateNarInfo_inScope {scope : Catalog.Scope} (draft : NarInfo.Draft) :
    InScope scope catalog (updateNarInfo context draft catalog).2 := by
  cases h : detailsOf draft with
  | error error =>
    rw [updateNarInfo, h]
    exact .refl scope catalog
  | ok details =>
    rw [updateNarInfo_eq _ _ h, Outcome.andThen_snd fun _ _ => rfl]
    exact context.write_inScope catalog _ (Catalog.amendNarInfoReturning_inScope details _ _)

theorem countedWith_inScope {scope : Catalog.Scope} {what : String} {size : UInt64}
    {statement : Int → Write Nat}
    (h : ∀ {n}, Catalog.Fits Catalog.maxInteger n → (statement n).InScope scope) :
    InScope scope catalog (countedWith context what size statement catalog).2 := by
  unfold countedWith
  split
  · next n hsize => exact context.write_inScope catalog _ (h (fits_of_storable hsize))
  · exact .refl scope catalog

/-- A call that writes leaves alone what is out of its scope. -/
theorem Change.run_inScope (change : Change) :
    InScope change.scope catalog (change.run context catalog).2 := by
  cases change with
  | createNarInfo draft =>
    exact createNarInfo_leads context catalog (.refl _) fun _ hok =>
      Catalog.mergeNarInfo_inScope _ _ _ hok
  | updateNarInfo draft => exact updateNarInfo_inScope context catalog draft
  | setNarInfoFileSize hash size =>
    exact countedWith_inScope context catalog fun _ => Catalog.updateNarInfos_inScope _ _
  | touchNarInfo hash =>
    exact context.write_inScope catalog _ (Catalog.updateNarInfos_inScope _ _)
  | deleteNarInfoByHash | deleteNarInfoById | deleteOrphanedNarInfos =>
    exact context.write_inScope catalog _ (Catalog.deleteNarInfos_inScope _)
  | linkNarInfoToFile narInfo narFile =>
    exact (context.write_relates _ Catalog.linkFile_relates _ catalog).inScope
  | addReference narInfo reference =>
    exact (context.write_relates _ Catalog.addReference_relates _ catalog).inScope
  | addReferences narInfo references =>
    exact (addInBatches_relates context catalog _ Catalog.addReference_relates _).inScope
  | addSignature narInfo signature =>
    exact (context.write_relates _ Catalog.addSignature_relates _ catalog).inScope
  | addSignatures narInfo signatures =>
    exact (addInBatches_relates context catalog _ Catalog.addSignature_relates _).inScope
  | createNarFile draft =>
    exact createNarFile_leads context catalog (.refl _) fun _ _ hok =>
      Catalog.mergeNarFile_inScope _ _ _ _ hok
  | touchNarFile key =>
    exact context.write_inScope catalog _
      (Catalog.updateNarFiles_inScope _ (.touched context.now))
  | deleteNarFileByKey | deleteNarFileById | deleteOrphanedFiles =>
    exact context.write_inScope catalog _ (Catalog.deleteNarFiles_inScope _)
  | setTotalChunks narFile totalChunks =>
    exact countedWith_inScope context catalog fun fits =>
      Catalog.updateNarFiles_inScope _ (.chunked fits)
  | setChunkingStarted narFile =>
    exact context.write_inScope catalog _
      (Catalog.updateNarFiles_inScope _ (.chunkingStarted context.now))
  | setVerified narFile verifiedAt =>
    exact context.write_inScope catalog _
      (Catalog.updateNarFiles_inScope _ (.verified verifiedAt))
  | createChunk hash size =>
    exact createChunk_leads context catalog (.refl _) fun hok =>
      Catalog.mergeChunk_inScope _ _ _ hok
  | deleteChunkById | deleteOrphanedChunks =>
    exact context.write_inScope catalog _ (Catalog.deleteChunks_inScope _)
  | linkFileToChunk narFile chunk index =>
    exact (context.write_relates _ Catalog.linkChunk_relates _ catalog).inScope
  | linkFileToChunks narFile chunks indices =>
    exact (linkFileToChunks_relates context catalog narFile chunks indices).inScope
  | setSetting key value =>
    exact context.write_inScope catalog _ (Catalog.mergeSetting_inScope _ key value)
  | createSetting key value =>
    have hinsert := Catalog.insertSetting_inScope context.now.micros key value
    change InScope _ catalog (Store.createSetting context key value catalog).2
    rw [Store.createSetting, Outcome.andThen_snd fun _ _ => rfl]
    exact context.write_inScope catalog _ hinsert

/-- A call leaves alone what is out of its scope. -/
theorem Operation.run_inScope (operation : Operation) :
    InScope operation.scope catalog (operation.run context catalog).2 := by
  cases operation with
  | read query => exact .refl _ catalog
  | write change => exact change.run_inScope context catalog

end calls

end Store

end NarIndex
