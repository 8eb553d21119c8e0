import NarIndex.Catalog.Update
import NarIndex.Proofs.Catalog.Table

/-!
# NarIndex.Proofs.Catalog.Statement

What the statements that bring rows in do, told by whether the natural key is there.  An insert and
a merge of an absent key add the same row, which is then found by its id; of a present key the
insert fails, and the merge yields the row that is there.  Filling a placeholder is merging, with
details that have a URL (`mapWhere_fill`).
-/

namespace NarIndex

namespace NarInfo

variable {ν : Type}

@[simp] theorem isMigrated_eq (row : NarInfo ν) : row.isMigrated = row.details.url.isSome :=
  rfl

@[simp] theorem hash_amended (details : Details ν) (now : ν) (row : NarInfo ν) :
    (row.amended details now).hash = row.hash :=
  rfl

@[simp] theorem hash_merged (details : Details ν) (now : ν) (row : NarInfo ν) :
    (row.merged details now).hash = row.hash :=
  rfl

@[simp] theorem Details.kept_url (details : Details Int) : details.kept.url = details.url :=
  rfl

/-- Details without a URL fill nothing. -/
theorem merged_of_isNone {details : Details ν} (h : details.url.isSome = false) (now : ν)
    (row : NarInfo ν) : row.merged details now = row := by
  rw [merged_eq, isFilledBy, h, Bool.and_false, if_neg Bool.false_ne_true]

/-- Nothing fills a record that is more than a placeholder. -/
theorem merged_of_isMigrated {row : NarInfo ν} (h : row.isMigrated) (details : Details ν)
    (now : ν) : row.merged details now = row := by
  have hurl : row.details.url.isNone = false := by
    rw [Option.isNone_eq_false_iff]
    exact h
  rw [merged_eq, isFilledBy, hurl, Bool.false_and, if_neg Bool.false_ne_true]

/-- Details with a URL fill a placeholder. -/
theorem merged_of_placeholder {row : NarInfo ν} (h : row.isMigrated = false) {details : Details ν}
    (hurl : details.url.isSome) (now : ν) : row.merged details now = row.amended details now := by
  have hnone : row.details.url.isNone := by
    rw [← Option.isSome_eq_false_iff]
    exact h
  rw [merged_eq, isFilledBy, hnone, hurl, Bool.and_self, if_pos rfl]

end NarInfo

namespace Catalog

/-! ## NarInfos -/

section NarInfos

variable {catalog : Catalog} {hash : String} {row : NarInfo Value}

/-- The NarInfo of a hash has this hash. -/
theorem hash_of_narInfoByHash? (h : catalog.narInfoByHash? hash = some row) : row.hash = hash := by
  rw [narInfoByHash?, List.find?_eq_some_iff_append] at h
  exact beq_iff_eq.1 h.1

/-- A hash that is new is inserted. -/
theorem insertNarInfo_of_none (h : catalog.narInfoByHash? hash = none)
    (details : NarInfo.Details Int) (now : Int) :
    insertNarInfo hash details now catalog
      = .ok ((catalog.addNarInfo hash details now).1.id,
          (catalog.addNarInfo hash details now).2) := by
  rw [insertNarInfo, ← List.isSome_find?, ← narInfoByHash?, h]
  rfl

/-- A hash that is taken is refused. -/
theorem insertNarInfo_of_some (h : catalog.narInfoByHash? hash = some row)
    (details : NarInfo.Details Int) (now : Int) :
    insertNarInfo hash details now catalog = .error (.uniqueViolated "narinfos.hash") := by
  rw [insertNarInfo, ← List.isSome_find?, ← narInfoByHash?, h]
  rfl

/-- A hash that is new is inserted, and its row returned. -/
theorem mergeNarInfo_of_none (h : catalog.narInfoByHash? hash = none)
    (details : NarInfo.Details Int) (now : Int) :
    mergeNarInfo hash details now catalog = .ok (catalog.addNarInfo hash details now) := by
  rw [mergeNarInfo, Write.always, h]

/-- The tables with details merged into the NarInfo of a hash. -/
def withMerged (catalog : Catalog) (hash : String) (details : NarInfo.Details Int) (now : Int) :
    Catalog :=
  { catalog with
    narInfos := mapWhere (·.hash == hash) (·.merged details.kept (.integer now)) catalog.narInfos }

/-- A hash that is taken has its row merged, and returned. -/
theorem mergeNarInfo_of_some (h : catalog.narInfoByHash? hash = some row)
    (details : NarInfo.Details Int) (now : Int) :
    mergeNarInfo hash details now catalog
      = .ok (row.merged details.kept (.integer now), catalog.withMerged hash details now) := by
  rw [mergeNarInfo, Write.always, h, withMerged]

/-- Details without a URL change no row that is there. -/
theorem withMerged_of_isNone {details : NarInfo.Details Int} (h : details.url.isSome = false)
    (catalog : Catalog) (hash : String) (now : Int) :
    catalog.withMerged hash details now = catalog := by
  have hmerged : (fun row : NarInfo Value => row.merged details.kept (.integer now)) = id :=
    funext fun row => NarInfo.merged_of_isNone (by rw [NarInfo.Details.kept_url, h]) _ row
  simp [withMerged, hmerged, mapWhere]

/-- Filling the placeholder of a hash with details that have a URL is merging them. -/
theorem fillPlaceholder_eq {details : NarInfo.Details Int} (h : details.url.isSome)
    (catalog : Catalog) (hash : String) (now : Int) :
    fillPlaceholder hash details now catalog
      = .ok (catalog.narInfos.countP fun row => row.hash == hash && !row.isMigrated,
          catalog.withMerged hash details now) := by
  have hrow : ∀ row ∈ catalog.narInfos,
      (if row.hash == hash && !row.isMigrated then row.amended details.kept (.integer now) else row)
        = if row.hash == hash then row.merged details.kept (.integer now) else row := by
    intro row _
    have hfilled : row.isFilledBy details.kept = !row.isMigrated := by
      rw [NarInfo.isFilledBy, NarInfo.Details.kept_url, h, Bool.and_true, NarInfo.isMigrated_eq,
        Option.not_isSome]
    rw [NarInfo.merged_eq, hfilled]
    by_cases hhash : row.hash == hash <;> simp [hhash]
  rw [fillPlaceholder, updateNarInfos, Write.always, withMerged, mapWhere, mapWhere,
    List.map_congr_left hrow]

theorem narInfoByHash?_withMerged (catalog : Catalog) (hash : String)
    (details : NarInfo.Details Int) (now : Int) :
    (catalog.withMerged hash details now).narInfoByHash? hash
      = (catalog.narInfoByHash? hash).map (·.merged details.kept (.integer now)) :=
  find?_mapWhere_self fun row => by rw [NarInfo.hash_merged]

/-- A merge yields a row that is in the table after it. -/
theorem mem_of_mergeNarInfo {details : NarInfo.Details Int} {now : Int} {after : Catalog}
    (h : mergeNarInfo hash details now catalog = .ok (row, after)) : row ∈ after.narInfos := by
  cases hold : catalog.narInfoByHash? hash with
  | none =>
    rw [mergeNarInfo_of_none hold] at h
    cases h
    exact List.mem_append_right _ List.mem_cons_self
  | some old =>
    rw [mergeNarInfo_of_some hold] at h
    cases h
    have hhash := hash_of_narInfoByHash? hold
    exact mem_mapWhere.2 ⟨old, List.mem_of_find?_eq_some hold, if_pos (beq_iff_eq.2 hhash)⟩

/-- A merge yields the row of the hash. -/
theorem hash_of_mergeNarInfo {details : NarInfo.Details Int} {now : Int} {after : Catalog}
    (h : mergeNarInfo hash details now catalog = .ok (row, after)) : row.hash = hash := by
  cases hold : catalog.narInfoByHash? hash with
  | none =>
    rw [mergeNarInfo_of_none hold] at h
    cases h
    rfl
  | some old =>
    rw [mergeNarInfo_of_some hold] at h
    cases h
    rw [NarInfo.hash_merged, hash_of_narInfoByHash? hold]

/-- A new NarInfo is found by its id. -/
theorem narInfoById?_addNarInfo (catalog : Catalog) (hash : String)
    (details : NarInfo.Details Int) (now : Int) :
    (catalog.addNarInfo hash details now).2.narInfoById?
        (catalog.addNarInfo hash details now).1.id
      = some (catalog.addNarInfo hash details now).1 :=
  find?_append_nextId rfl

/-- The tables with other details for the NarInfo of a hash. -/
def withAmended (catalog : Catalog) (hash : String) (details : NarInfo.Details Int) (now : Int) :
    Catalog :=
  { catalog with
    narInfos :=
      mapWhere (·.hash == hash) (·.amended details.kept (.integer now)) catalog.narInfos }

/-- Amending counts the rows of the hash. -/
theorem amendNarInfo_eq (catalog : Catalog) (hash : String) (details : NarInfo.Details Int)
    (now : Int) :
    amendNarInfo hash details now catalog
      = .ok (catalog.narInfos.countP (·.hash == hash), catalog.withAmended hash details now) :=
  rfl

/-- Amending returns the row of the hash as it is then. -/
theorem amendNarInfoReturning_eq (catalog : Catalog) (hash : String)
    (details : NarInfo.Details Int) (now : Int) :
    amendNarInfoReturning hash details now catalog
      = .ok ((catalog.narInfoByHash? hash).map (·.amended details.kept (.integer now)),
          catalog.withAmended hash details now) :=
  rfl

/-- Without a row to be amended, nothing changes. -/
theorem withAmended_of_none (h : catalog.narInfoByHash? hash = none)
    (details : NarInfo.Details Int) (now : Int) :
    catalog.withAmended hash details now = catalog := by
  have hother : ∀ row ∈ catalog.narInfos, (row.hash == hash) = false := by
    simpa [narInfoByHash?] using h
  rw [withAmended, mapWhere_eq_self hother]

/-- An amended row is in the table. -/
theorem mem_withAmended (h : catalog.narInfoByHash? hash = some row)
    (details : NarInfo.Details Int) (now : Int) :
    row.amended details.kept (.integer now)
      ∈ (catalog.withAmended hash details now).narInfos := by
  have hhash := hash_of_narInfoByHash? h
  exact mem_mapWhere.2 ⟨row, List.mem_of_find?_eq_some h, if_pos (beq_iff_eq.2 hhash)⟩

/-- What is found of the hash is what was found before, amended. -/
theorem narInfoByHash?_withAmended (catalog : Catalog) (hash : String)
    (details : NarInfo.Details Int) (now : Int) :
    (catalog.withAmended hash details now).narInfoByHash? hash
      = (catalog.narInfoByHash? hash).map (·.amended details.kept (.integer now)) :=
  find?_mapWhere_self fun row => by rw [NarInfo.hash_amended]

end NarInfos

/-! ## NAR files -/

section NarFiles

variable {catalog : Catalog} {key : NarFile.Key} {row : NarFile Value}

theorem insertNarFile_of_none (h : catalog.narFileByKey? key = none)
    (fileSize totalChunks now : Int) :
    insertNarFile key fileSize totalChunks now catalog
      = .ok ((catalog.addNarFile key fileSize totalChunks now).1.id,
          (catalog.addNarFile key fileSize totalChunks now).2) := by
  rw [insertNarFile, ← List.isSome_find?, ← narFileByKey?, h]
  rfl

theorem insertNarFile_of_some (h : catalog.narFileByKey? key = some row)
    (fileSize totalChunks now : Int) :
    insertNarFile key fileSize totalChunks now catalog
      = .error (.uniqueViolated "nar_files.hash, nar_files.compression, nar_files.query") := by
  rw [insertNarFile, ← List.isSome_find?, ← narFileByKey?, h]
  rfl

theorem mergeNarFile_of_none (h : catalog.narFileByKey? key = none)
    (fileSize totalChunks now : Int) :
    mergeNarFile key fileSize totalChunks now catalog
      = .ok (catalog.addNarFile key fileSize totalChunks now) := by
  rw [mergeNarFile, Write.always, h]

/-- A key that is taken has its row returned as it is. -/
theorem mergeNarFile_of_some (h : catalog.narFileByKey? key = some row)
    (fileSize totalChunks now : Int) :
    mergeNarFile key fileSize totalChunks now catalog = .ok (row, catalog) := by
  rw [mergeNarFile, Write.always, h]

/-- A merge yields a row that is in the table after it. -/
theorem mem_of_mergeNarFile {fileSize totalChunks now : Int} {after : Catalog}
    (h : mergeNarFile key fileSize totalChunks now catalog = .ok (row, after)) :
    row ∈ after.narFiles := by
  cases hold : catalog.narFileByKey? key with
  | none =>
    rw [mergeNarFile_of_none hold] at h
    cases h
    exact List.mem_append_right _ List.mem_cons_self
  | some old =>
    rw [mergeNarFile_of_some hold] at h
    cases h
    exact List.mem_of_find?_eq_some hold

/-- A merge yields the row of the key. -/
theorem key_of_mergeNarFile {fileSize totalChunks now : Int} {after : Catalog}
    (h : mergeNarFile key fileSize totalChunks now catalog = .ok (row, after)) : row.key = key := by
  cases hold : catalog.narFileByKey? key with
  | none =>
    rw [mergeNarFile_of_none hold] at h
    cases h
    rfl
  | some old =>
    rw [mergeNarFile_of_some hold] at h
    cases h
    simpa using List.find?_some hold

theorem narFileById?_addNarFile (catalog : Catalog) (key : NarFile.Key)
    (fileSize totalChunks now : Int) :
    (catalog.addNarFile key fileSize totalChunks now).2.narFileById?
        (catalog.addNarFile key fileSize totalChunks now).1.id
      = some (catalog.addNarFile key fileSize totalChunks now).1 :=
  find?_append_nextId rfl

end NarFiles

/-! ## chunks -/

section Chunks

variable {catalog : Catalog} {hash : String} {row : Chunk Value}

theorem insertChunk_of_none (h : catalog.chunkByHash? hash = none) (size now : Int) :
    insertChunk hash size now catalog
      = .ok ((catalog.addChunk hash size now).1.id, (catalog.addChunk hash size now).2) := by
  rw [insertChunk, ← List.isSome_find?, ← chunkByHash?, h]
  rfl

theorem insertChunk_of_some (h : catalog.chunkByHash? hash = some row) (size now : Int) :
    insertChunk hash size now catalog = .error (.uniqueViolated "chunks.hash") := by
  rw [insertChunk, ← List.isSome_find?, ← chunkByHash?, h]
  rfl

theorem mergeChunk_of_none (h : catalog.chunkByHash? hash = none) (size now : Int) :
    mergeChunk hash size now catalog = .ok (catalog.addChunk hash size now) := by
  rw [mergeChunk, Write.always, h]

theorem mergeChunk_of_some (h : catalog.chunkByHash? hash = some row) (size now : Int) :
    mergeChunk hash size now catalog = .ok (row, catalog) := by
  rw [mergeChunk, Write.always, h]

/-- A merge yields a row that is in the table after it. -/
theorem mem_of_mergeChunk {size now : Int} {after : Catalog}
    (h : mergeChunk hash size now catalog = .ok (row, after)) : row ∈ after.chunks := by
  cases hold : catalog.chunkByHash? hash with
  | none =>
    rw [mergeChunk_of_none hold] at h
    cases h
    exact List.mem_append_right _ List.mem_cons_self
  | some old =>
    rw [mergeChunk_of_some hold] at h
    cases h
    exact List.mem_of_find?_eq_some hold

/-- A merge yields the row of the hash. -/
theorem hash_of_mergeChunk {size now : Int} {after : Catalog}
    (h : mergeChunk hash size now catalog = .ok (row, after)) : row.hash = hash := by
  cases hold : catalog.chunkByHash? hash with
  | none =>
    rw [mergeChunk_of_none hold] at h
    cases h
    rfl
  | some old =>
    rw [mergeChunk_of_some hold] at h
    cases h
    simpa using List.find?_some hold

theorem chunkById?_addChunk (catalog : Catalog) (hash : String) (size now : Int) :
    (catalog.addChunk hash size now).2.chunkById? (catalog.addChunk hash size now).1.id
      = some (catalog.addChunk hash size now).1 :=
  find?_append_nextId rfl

end Chunks

/-! ## settings -/

section Settings

variable {catalog : Catalog} {key : String} {row : Setting Value}

theorem insertSetting_of_none (h : catalog.settingByKey? key = none) (value : String) (now : Int) :
    insertSetting key value now catalog = .ok ((), catalog.addSetting key value now) := by
  rw [insertSetting, ← List.isSome_find?, ← settingByKey?, h]
  rfl

theorem insertSetting_of_some (h : catalog.settingByKey? key = some row) (value : String)
    (now : Int) :
    insertSetting key value now catalog = .error (.uniqueViolated "config.key") := by
  rw [insertSetting, ← List.isSome_find?, ← settingByKey?, h]
  rfl

theorem mergeSetting_of_none (h : catalog.settingByKey? key = none) (value : String) (now : Int) :
    mergeSetting key value now catalog = .ok ((), catalog.addSetting key value now) := by
  rw [mergeSetting, Write.always, ← List.isSome_find?, ← settingByKey?, h]
  rfl

theorem mergeSetting_of_some (h : catalog.settingByKey? key = some row) (value : String)
    (now : Int) :
    mergeSetting key value now catalog
      = .ok ((), { catalog with
          settings :=
            mapWhere (·.key == key) (·.overwritten value (.integer now)) catalog.settings }) := by
  rw [mergeSetting, Write.always, ← List.isSome_find?, ← settingByKey?, h]
  rfl

/-- A setting that has come in is found by its key. -/
theorem settingByKey?_addSetting (h : catalog.settingByKey? key = none) (value : String)
    (now : Int) :
    (catalog.addSetting key value now).settingByKey? key
      = some (.fresh (nextId (catalog.settings.map (·.id))) key value (.integer now)) := by
  have hother : ∀ row ∈ catalog.settings, (row.key == key) = false := by
    simpa [settingByKey?] using h
  exact find?_append_singleton hother (beq_self_eq_true key)

/-- A setting that has been overwritten is found by its key. -/
theorem settingByKey?_overwritten (h : catalog.settingByKey? key = some row) (value : String)
    (now : Int) :
    (mapWhere (·.key == key) (·.overwritten value (.integer now)) catalog.settings).find?
        (·.key == key)
      = some (row.overwritten value (.integer now)) := by
  have hkeeps (row : Setting Value) :
      ((row.overwritten value (.integer now)).key == key) = (row.key == key) := rfl
  rw [find?_mapWhere_self hkeeps, ← settingByKey?, h, Option.map_some]

/-- A setting that was inserted is found by its key. -/
theorem settingByKey?_of_insertSetting {after : Catalog} {value : String} {now : Int}
    (h : insertSetting key value now catalog = .ok ((), after)) :
    ∃ row ∈ after.settings, after.settingByKey? key = some row := by
  cases hold : catalog.settingByKey? key with
  | none =>
    rw [insertSetting_of_none hold] at h
    cases h
    exact ⟨_, List.mem_append_right _ List.mem_cons_self, settingByKey?_addSetting hold value now⟩
  | some row =>
    rw [insertSetting_of_some hold] at h
    contradiction

end Settings

end Catalog

end NarIndex
