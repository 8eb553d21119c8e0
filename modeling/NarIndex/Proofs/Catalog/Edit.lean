import Mathlib.Logic.Relation
import NarIndex.Catalog.Delete
import NarIndex.Catalog.Link
import NarIndex.Proofs.Catalog.Sound
import NarIndex.Proofs.Catalog.Statement

/-!
# NarIndex.Proofs.Catalog.Edit

Everything that statements do to the tables, said once.  An edit is one change to the tables, with
what the statement that makes it has checked before.  A statement on rows makes one edit at most
(`Write.ByEdit`); a statement on relations makes as many as it is given relations, and changes no
row (`Relates`).  Together these are what one call of the store comes to (`Effect`).  What every
edit keeps, edits keep (`Edits.keeps`).
-/

namespace NarIndex

open Catalog

/-! ## changes of a row -/

/-- What a statement does to a NarInfo that is there. -/
inductive NarInfo.Alteration : (NarInfo Value → NarInfo Value) → Prop
  | amended {details : NarInfo.Details Int} (fits : details.InRange) (now : Time.Timestamp) :
      Alteration (·.amended details.kept (.integer now.micros))
  | touched (now : Time.Timestamp) : Alteration (·.touched (.integer now.micros))
  | resized {size : Int} (fits : Fits maxInteger size) :
      Alteration fun row =>
        { row with details := { row.details with fileSize := some (.integer size) } }

/-- What a statement does to a NAR file that is there. -/
inductive NarFile.Alteration : (NarFile Value → NarFile Value) → Prop
  | touched (now : Time.Timestamp) : Alteration (·.touched (.integer now.micros))
  | chunked {totalChunks : Int} (fits : Fits maxInteger totalChunks) :
      Alteration fun row => { row with totalChunks := .integer totalChunks }
  | chunkingStarted (now : Time.Timestamp) :
      Alteration fun row => { row with chunkingStartedAt := some (.integer now.micros) }
  | verified (time : Time.Timestamp) :
      Alteration fun row => { row with verifiedAt := some (.integer time.micros) }

section alterations

variable {f : NarInfo Value → NarInfo Value} {g : NarFile Value → NarFile Value}

/-- No call changes the id of a NarInfo. -/
theorem NarInfo.Alteration.id_eq (h : NarInfo.Alteration f) (row : NarInfo Value) :
    (f row).id = row.id := by
  cases h <;> rfl

theorem NarInfo.Alteration.hash_eq (h : NarInfo.Alteration f) (row : NarInfo Value) :
    (f row).hash = row.hash := by
  cases h <;> rfl

/-- A sound NarInfo stays sound. -/
theorem NarInfo.Alteration.sound (h : NarInfo.Alteration f) {row : NarInfo Value}
    (hrow : Sound row) : Sound (f row) := by
  obtain ⟨r, rfl, hr⟩ := hrow
  cases h with
  | @amended details fits now =>
    exact ⟨r.amended details now.micros, rfl, fits, hr.createdAt, inCalendar_of_mem_some now,
      inCalendar_micros now⟩
  | touched now =>
    exact ⟨r.touched now.micros, rfl, hr.details, hr.createdAt, inCalendar_of_mem_some now,
      inCalendar_micros now⟩
  | @resized size fits =>
    exact ⟨{ r with details := { r.details with fileSize := some size } }, rfl,
      ⟨by rintro n ⟨⟩; exact fits, hr.details.narSize⟩, hr.createdAt, hr.updatedAt,
      hr.lastAccessedAt⟩

theorem NarFile.Alteration.id_eq (h : NarFile.Alteration g) (row : NarFile Value) :
    (g row).id = row.id := by
  cases h <;> rfl

theorem NarFile.Alteration.key_eq (h : NarFile.Alteration g) (row : NarFile Value) :
    (g row).key = row.key := by
  cases h <;> rfl

/-- A sound NAR file stays sound. -/
theorem NarFile.Alteration.sound (h : NarFile.Alteration g) {row : NarFile Value}
    (hrow : Sound row) : Sound (g row) := by
  obtain ⟨r, rfl, hr⟩ := hrow
  cases h with
  | touched now =>
    exact ⟨r.touched now.micros, rfl,
      { hr with
        updatedAt := inCalendar_of_mem_some now, lastAccessedAt := inCalendar_micros now }⟩
  | @chunked totalChunks fits =>
    exact ⟨{ r with totalChunks }, rfl, { hr with totalChunks := fits }⟩
  | chunkingStarted now =>
    exact ⟨{ r with chunkingStartedAt := some now.micros }, rfl,
      { hr with chunkingStartedAt := inCalendar_of_mem_some now }⟩
  | verified time =>
    exact ⟨{ r with verifiedAt := some time.micros }, rfl,
      { hr with verifiedAt := inCalendar_of_mem_some time }⟩

/-- A sound setting stays sound. -/
theorem Setting.sound_overwritten (value : String) (now : Time.Timestamp) {row : Setting Value}
    (hrow : Sound row) : Sound (row.overwritten value (.integer now.micros)) := by
  obtain ⟨r, rfl, hr⟩ := hrow
  exact ⟨r.overwritten value now.micros, rfl,
    { hr with updatedAt := inCalendar_of_mem_some now }⟩

end alterations

namespace Catalog

/-! ## rows that go -/

/-- The tables without the NarInfos that meet a condition, and without all that leads from them. -/
def withoutNarInfos (p : NarInfo Value → Bool) (catalog : Catalog) : Catalog :=
  let stays := survives (·.id) (catalog.narInfos.filter p)
  { catalog with
    narInfos := catalog.narInfos.filter (!p ·)
    references := catalog.references.filter (stays ·.narInfo)
    signatures := catalog.signatures.filter (stays ·.narInfo)
    fileLinks := catalog.fileLinks.filter (stays ·.narInfo) }

/-- The tables without the NAR files that meet a condition, and without all that leads from or to
them. -/
def withoutNarFiles (p : NarFile Value → Bool) (catalog : Catalog) : Catalog :=
  let stays := survives (·.id) (catalog.narFiles.filter p)
  { catalog with
    narFiles := catalog.narFiles.filter (!p ·)
    fileLinks := catalog.fileLinks.filter (stays ·.narFile)
    chunkLinks := catalog.chunkLinks.filter (stays ·.narFile) }

/-- The tables without the chunks that meet a condition, and without all that leads to them. -/
def withoutChunks (p : Chunk Value → Bool) (catalog : Catalog) : Catalog :=
  let stays := survives (·.id) (catalog.chunks.filter p)
  { catalog with
    chunks := catalog.chunks.filter (!p ·)
    chunkLinks := catalog.chunkLinks.filter (stays ·.chunk) }

/-! ## edits -/

/-- One change to the tables.  A row comes in with a natural key that is not taken and with sizes in
their ranges; a relation comes in if it is new, and if its ends are there. -/
inductive Edit (catalog : Catalog) : Catalog → Prop
  | addNarInfo {hash : String} {details : NarInfo.Details Int} (now : Time.Timestamp)
      (absent : catalog.narInfoByHash? hash = none) (fits : details.InRange) :
      Edit catalog (catalog.addNarInfo hash details now.micros).2
  | alterNarInfos (p : NarInfo Value → Bool) {f : NarInfo Value → NarInfo Value}
      (alters : NarInfo.Alteration f) :
      Edit catalog { catalog with narInfos := mapWhere p f catalog.narInfos }
  | dropNarInfos (p : NarInfo Value → Bool) : Edit catalog (catalog.withoutNarInfos p)
  | addNarFile {key : NarFile.Key} {fileSize totalChunks : Int} (now : Time.Timestamp)
      (absent : catalog.narFileByKey? key = none) (sizeFits : Fits maxInteger fileSize)
      (chunksFit : Fits maxInteger totalChunks) :
      Edit catalog (catalog.addNarFile key fileSize totalChunks now.micros).2
  | alterNarFiles (p : NarFile Value → Bool) {f : NarFile Value → NarFile Value}
      (alters : NarFile.Alteration f) :
      Edit catalog { catalog with narFiles := mapWhere p f catalog.narFiles }
  | dropNarFiles (p : NarFile Value → Bool) : Edit catalog (catalog.withoutNarFiles p)
  | addChunk {hash : String} {size : Int} (now : Time.Timestamp)
      (absent : catalog.chunkByHash? hash = none) (fits : Fits Chunk.maxSize size) :
      Edit catalog (catalog.addChunk hash size now.micros).2
  | dropChunks (p : Chunk Value → Bool) : Edit catalog (catalog.withoutChunks p)
  | addSetting {key : String} (value : String) (now : Time.Timestamp)
      (absent : catalog.settingByKey? key = none) :
      Edit catalog (catalog.addSetting key value now.micros)
  | overwriteSettings (p : Setting Value → Bool) (value : String) (now : Time.Timestamp) :
      Edit catalog
        { catalog with
          settings := mapWhere p (·.overwritten value (.integer now.micros)) catalog.settings }
  | addReference {reference : Attachment} (new : reference ∉ catalog.references)
      (owner : catalog.hasNarInfo reference.narInfo) :
      Edit catalog { catalog with references := catalog.references ++ [reference] }
  | addSignature {signature : Attachment} (new : signature ∉ catalog.signatures)
      (owner : catalog.hasNarInfo signature.narInfo) :
      Edit catalog { catalog with signatures := catalog.signatures ++ [signature] }
  | linkFile {link : FileLink} (new : link ∉ catalog.fileLinks)
      (narInfo : catalog.hasNarInfo link.narInfo) (narFile : catalog.hasNarFile link.narFile) :
      Edit catalog { catalog with fileLinks := catalog.fileLinks ++ [link] }
  | linkChunk {link : ChunkLink} (free : catalog.linkAt? link.narFile link.index = none)
      (narFile : catalog.hasNarFile link.narFile) (chunk : catalog.hasChunk link.chunk) :
      Edit catalog { catalog with chunkLinks := catalog.chunkLinks ++ [link] }

/-- Edits one after the other. -/
abbrev Edits : Catalog → Catalog → Prop :=
  Relation.ReflTransGen Edit

/-- What every edit keeps, edits keep. -/
theorem Edits.keeps {P : Catalog → Prop}
    (step : ∀ {before after}, Edit before after → P before → P after) {catalog after : Catalog}
    (h : Edits catalog after) (start : P catalog) : P after := by
  induction h with
  | refl => exact start
  | tail _ last ih => exact step last ih

/-- A statement that does what it does by edits. -/
def Write.ByEdits {α : Type} (statement : Write α) : Prop :=
  ∀ ⦃catalog answer after⦄, statement catalog = .ok (answer, after) → Edits catalog after

/-- One edit at most. -/
abbrev EditOrNone : Catalog → Catalog → Prop :=
  Relation.ReflGen Edit

/-- A statement that makes one edit at most. -/
def Write.ByEdit {α : Type} (statement : Write α) : Prop :=
  ∀ ⦃catalog answer after⦄, statement catalog = .ok (answer, after) → EditOrNone catalog after

/-- One edit is a run of edits. -/
theorem Write.ByEdit.byEdits {α : Type} {statement : Write α} (h : statement.ByEdit) :
    statement.ByEdits :=
  fun _ _ _ hok => (h hok).to_reflTransGen

/-- A statement that cannot fail and makes one edit at most of any tables. -/
theorem Write.byEdit_always {α : Type} {f : Catalog → α × Catalog}
    (h : ∀ catalog, EditOrNone catalog (f catalog).2) : (Write.always f).ByEdit := by
  intro catalog answer after hok
  have hafter : (f catalog).2 = after := congrArg (·.2) (Except.ok.inj hok)
  rw [← hafter]
  exact h catalog

/-- Relations come in one after the other, and no row changes. -/
structure Relates (before after : Catalog) : Prop where
  edits : Edits before after
  narInfos : after.narInfos = before.narInfos
  narFiles : after.narFiles = before.narFiles
  chunks : after.chunks = before.chunks
  settings : after.settings = before.settings

theorem Relates.refl (catalog : Catalog) : Relates catalog catalog :=
  ⟨.refl, rfl, rfl, rfl, rfl⟩

theorem Relates.trans {before between after : Catalog} (h : Relates before between)
    (h' : Relates between after) : Relates before after :=
  ⟨h.edits.trans h'.edits, h'.narInfos.trans h.narInfos, h'.narFiles.trans h.narFiles,
    h'.chunks.trans h.chunks, h'.settings.trans h.settings⟩

/-- What one call comes to: an edit, or relations that come in; if it does nothing, then none do. -/
inductive Effect (before after : Catalog) : Prop
  | edit (edit : Edit before after)
  | relations (relates : Relates before after)

/-- A call that does nothing. -/
theorem Effect.none (catalog : Catalog) : Effect catalog catalog :=
  .relations (.refl catalog)

/-- Whatever one call comes to is done edit by edit. -/
theorem Effect.edits {before after : Catalog} (h : Effect before after) : Edits before after := by
  cases h with
  | edit edit => exact .single edit
  | relations relates => exact relates.edits

/-- One edit, or none, is what a call may come to. -/
theorem Effect.of_editOrNone {before after : Catalog} (h : EditOrNone before after) :
    Effect before after := by
  cases h with
  | refl => exact .none before
  | single edit => exact .edit edit

/-! ## statements on rows -/

section statements

variable {details : NarInfo.Details Int}

/-- An update of NarInfos is one edit. -/
theorem updateNarInfos_byEdit (p : NarInfo Value → Bool) {f : NarInfo Value → NarInfo Value}
    (alters : NarInfo.Alteration f) : (updateNarInfos p f).ByEdit :=
  Write.byEdit_always fun _ => .single (.alterNarInfos p alters)

theorem updateNarFiles_byEdit (p : NarFile Value → Bool) {f : NarFile Value → NarFile Value}
    (alters : NarFile.Alteration f) : (updateNarFiles p f).ByEdit :=
  Write.byEdit_always fun _ => .single (.alterNarFiles p alters)

theorem amendNarInfoReturning_byEdit (fits : details.InRange) (hash : String)
    (now : Time.Timestamp) : (amendNarInfoReturning hash details now.micros).ByEdit :=
  Write.byEdit_always fun _ => .single (.alterNarInfos _ (.amended fits now))

/-- A deletion of NarInfos is one edit, with what leads from them. -/
theorem deleteNarInfos_byEdit (p : Catalog → NarInfo Value → Bool) : (deleteNarInfos p).ByEdit :=
  Write.byEdit_always fun catalog => .single (.dropNarInfos (p catalog))

/-- A deletion of NAR files is one edit, with what leads from or to them. -/
theorem deleteNarFiles_byEdit (p : Catalog → NarFile Value → Bool) : (deleteNarFiles p).ByEdit :=
  Write.byEdit_always fun catalog => .single (.dropNarFiles (p catalog))

/-- A deletion of chunks is one edit, with what leads to them. -/
theorem deleteChunks_byEdit (p : Catalog → Chunk Value → Bool) : (deleteChunks p).ByEdit :=
  Write.byEdit_always fun catalog => .single (.dropChunks (p catalog))

/-- Merging details changes the rows that they fill, and gives these all of them. -/
theorem withMerged_eq (catalog : Catalog) (hash : String) (details : NarInfo.Details Int)
    (now : Int) :
    catalog.withMerged hash details now
      = { catalog with
          narInfos := mapWhere (fun row => row.hash == hash && row.isFilledBy details.kept)
            (·.amended details.kept (.integer now)) catalog.narInfos } := by
  have hrow : ∀ row ∈ catalog.narInfos,
      (if row.hash == hash then row.merged details.kept (.integer now) else row)
        = if row.hash == hash && row.isFilledBy details.kept then
            row.amended details.kept (.integer now) else row := by
    intro row _
    rw [NarInfo.merged_eq]
    by_cases hhash : row.hash == hash <;> simp [hhash]
  rw [withMerged, mapWhere, mapWhere, List.map_congr_left hrow]

/-- Merging brings a row in or alters the one that is there. -/
theorem mergeNarInfo_byEdit (fits : details.InRange) (hash : String) (now : Time.Timestamp) :
    (mergeNarInfo hash details now.micros).ByEdit := by
  refine Write.byEdit_always fun catalog => ?_
  split
  · next absent => exact .single (.addNarInfo now absent fits)
  · change EditOrNone catalog (catalog.withMerged hash details now.micros)
    rw [withMerged_eq]
    exact .single (.alterNarInfos _ (.amended fits now))

/-- Merging brings a row in or leaves all as it was. -/
theorem mergeNarFile_byEdit {fileSize totalChunks : Int} (sizeFits : Fits maxInteger fileSize)
    (chunksFit : Fits maxInteger totalChunks) (key : NarFile.Key) (now : Time.Timestamp) :
    (mergeNarFile key fileSize totalChunks now.micros).ByEdit := by
  refine Write.byEdit_always fun catalog => ?_
  split
  · next absent => exact .single (.addNarFile now absent sizeFits chunksFit)
  · exact .refl

theorem mergeChunk_byEdit {size : Int} (fits : Fits Chunk.maxSize size) (hash : String)
    (now : Time.Timestamp) : (mergeChunk hash size now.micros).ByEdit := by
  refine Write.byEdit_always fun catalog => ?_
  split
  · next absent => exact .single (.addChunk now absent fits)
  · exact .refl

/-- No setting is found by a key that none has. -/
theorem settingByKey?_eq_none {catalog : Catalog} {key : String}
    (h : ¬catalog.settings.any (·.key == key)) : catalog.settingByKey? key = none := by
  rwa [← List.isSome_find?, Bool.not_eq_true, Option.isSome_eq_false_iff,
    Option.isNone_iff_eq_none] at h

/-- Inserting brings a row in or fails. -/
theorem insertSetting_byEdit (key value : String) (now : Time.Timestamp) :
    (insertSetting key value now.micros).ByEdit := by
  intro catalog answer after hok
  unfold insertSetting at hok
  split at hok
  · contradiction
  · next hany =>
    cases hok
    exact .single (.addSetting value now (settingByKey?_eq_none hany))

theorem mergeSetting_byEdit (key value : String) (now : Time.Timestamp) :
    (mergeSetting key value now.micros).ByEdit := by
  refine Write.byEdit_always fun catalog => ?_
  split
  · exact .single (.overwriteSettings _ value now)
  · next hany => exact .single (.addSetting value now (settingByKey?_eq_none hany))

end statements

/-! ## statements on relations -/

/-- A statement that adds a relation to its table by `put` leaves the tables as they are, or brings
in a relation that is new and `sound`. -/
theorem relates_of_relate {α : Type} {catalog after : Catalog} {there sound : Bool} {link : α}
    {links : List α} {put : List α → Catalog} (same : put links = catalog)
    (new : there = false → sound = true → Relates catalog (put (links ++ [link])))
    (h : (do let links ← relate there sound link links; return put links) = .ok after) :
    Relates catalog after := by
  unfold relate at h
  cases hthere : there with
  | true =>
    rw [hthere, if_pos rfl] at h
    have hafter : put links = after := Except.ok.inj h
    rw [← hafter, same]
    exact .refl catalog
  | false =>
    rw [hthere, if_neg Bool.false_ne_true] at h
    cases hsound : sound with
    | true =>
      rw [hsound, if_pos rfl] at h
      have hafter : put (links ++ [link]) = after := Except.ok.inj h
      rw [← hafter]
      exact new hthere hsound
    | false =>
      rw [hsound, if_neg Bool.false_ne_true] at h
      contradiction

section relations

variable {catalog after : Catalog}

/-- Adding a reference touches nothing but relations. -/
theorem addReference_relates {reference : Attachment}
    (h : addReference reference catalog = .ok after) : Relates catalog after := by
  refine relates_of_relate rfl (fun hnew howner => ?_) h
  have hedit := Edit.addReference (by simpa using hnew) howner
  exact ⟨.single hedit, rfl, rfl, rfl, rfl⟩

theorem addSignature_relates {signature : Attachment}
    (h : addSignature signature catalog = .ok after) : Relates catalog after := by
  refine relates_of_relate rfl (fun hnew howner => ?_) h
  have hedit := Edit.addSignature (by simpa using hnew) howner
  exact ⟨.single hedit, rfl, rfl, rfl, rfl⟩

/-- Linking a NAR file touches nothing but relations. -/
theorem linkFile_relates {narInfo narFile : Int}
    (h : linkFile narInfo narFile catalog = .ok after) : Relates catalog after := by
  refine relates_of_relate rfl (fun hnew hends => ?_) h
  obtain ⟨hnarInfo, hnarFile⟩ := Bool.and_eq_true_iff.1 hends
  have hnew : (⟨narInfo, narFile⟩ : FileLink) ∉ catalog.fileLinks := by
    simpa [isLinked] using hnew
  exact ⟨.single (.linkFile hnew hnarInfo hnarFile), rfl, rfl, rfl, rfl⟩

theorem linkChunk_relates {link : ChunkLink} (h : linkChunk link catalog = .ok after) :
    Relates catalog after := by
  refine relates_of_relate rfl (fun hfree hends => ?_) h
  obtain ⟨hnarFile, hchunk⟩ := Bool.and_eq_true_iff.1 hends
  have hedit := Edit.linkChunk (by simpa using hfree) hnarFile hchunk
  exact ⟨.single hedit, rfl, rfl, rfl, rfl⟩

end relations

/-- A statement that adds several relations brings in each, one after the other. -/
theorem addAll_relates {α : Type} {add : α → Catalog → Except DriverError Catalog}
    (h : ∀ {link before after}, add link before = .ok after → Relates before after)
    {links : List α} {catalog after : Catalog} {answer : Unit}
    (hok : addAll add links catalog = .ok (answer, after)) : Relates catalog after := by
  induction links generalizing catalog with
  | nil =>
    cases hok
    exact .refl _
  | cons link links ih =>
    rw [addAll, List.foldlM_cons] at hok
    cases hlink : add link catalog with
    | error error =>
      rw [hlink] at hok
      contradiction
    | ok between =>
      rw [hlink] at hok
      exact (h hlink).trans (ih hok)

end Catalog

end NarIndex
