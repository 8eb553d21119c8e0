import NarIndex.Catalog.Update
import NarIndex.Store.Query

/-!
# NarIndex.Store.Create

Calls that get the row of a natural key, and create it if it is not there.  A backend that can merge
and return a row in one statement does so.  Any other one inserts, and takes the violation of the
unique key for the sign that the row is there.
-/

namespace NarIndex

/-- What a caller says about a store path. -/
structure NarInfo.Draft where
  hash : String
  storePath : Option String := none
  url : Option String := none
  compression : Option String := none
  fileHash : Option String := none
  fileSize : Option UInt64 := none
  narHash : Option String := none
  narSize : Option UInt64 := none
  deriver : Option String := none
  system : Option String := none
  contentAddress : Option String := none
  deriving DecidableEq, Repr

/-- What a caller says about a stored form of a NAR. -/
structure NarFile.Draft where
  key : NarFile.Key
  fileSize : UInt64
  totalChunks : UInt64
  deriving DecidableEq, Repr

namespace Store

/-! ## drafts -/

/-- A draft that only reserves a hash. -/
def placeholder (hash : String) : NarInfo.Draft :=
  { hash }

/-- A size that may be missing, as the store keeps it. -/
def storableOptional (what : String) : Option UInt64 → Except StoreError (Option Int)
  | none => .ok none
  | some size => (storable what size).map some

/-- The details of a draft; its file size is looked at before its NAR size. -/
def detailsOf (draft : NarInfo.Draft) : Except StoreError (NarInfo.Details Int) := do
  let fileSize ← storableOptional "file_size" draft.fileSize
  let narSize ← storableOptional "nar_size" draft.narSize
  return {
    storePath := draft.storePath, url := draft.url, compression := draft.compression,
    fileHash := draft.fileHash, fileSize, narHash := draft.narHash, narSize,
    deriver := draft.deriver, system := draft.system, contentAddress := draft.contentAddress }

/-! ## reading back -/

/-- The row that a statement has returned, as it is read. -/
def returned {ρ : Type → Type} [Catalog.Readable ρ] (row : ρ Catalog.Value) (catalog : Catalog) :
    Outcome (ρ Int) :=
  ((Catalog.read row).mapError .ofQuery, catalog)

/-- The row of an insert: the new one by its id, or else, if the key was taken, the one that `taken`
finds.  Any other error stands. -/
def inserted {α : Type} (insert : Outcome Int) (byId : Catalog → Int → Except StoreError α)
    (taken : Catalog → Outcome α) : Outcome α :=
  match insert with
  | (.ok id, catalog) => (byId catalog id, catalog)
  | (.error error, catalog) =>
    if error.isDuplicateKey then taken catalog else (.error error, catalog)

/-! ## calls -/

/-- Gets or creates the NarInfo of a draft's hash.  A draft with a URL fills a placeholder; any
other row stays as it is. -/
def createNarInfo (context : Context) (draft : NarInfo.Draft) (catalog : Catalog) :
    Outcome (NarInfo Int) :=
  let now := context.now.micros
  match detailsOf draft with
  | .error error => (.error error, catalog)
  | .ok details =>
    if context.dialect.nativeUpsert then
      Outcome.andThen
        (context.write "create_nar_info" (Catalog.mergeNarInfo draft.hash details now) catalog)
        returned
    else
      inserted
        (context.write "create_nar_info" (Catalog.insertNarInfo draft.hash details now) catalog)
        narInfoById
        fun catalog =>
          if details.url.isSome then
            Outcome.andThen
              (context.write "query" (Catalog.fillPlaceholder draft.hash details now) catalog)
              fun _ catalog => (narInfoByHash catalog draft.hash, catalog)
          else (narInfoByHash catalog draft.hash, catalog)

/-- Gives the NarInfo of a draft's hash the draft's details. -/
def updateNarInfo (context : Context) (draft : NarInfo.Draft) (catalog : Catalog) :
    Outcome (NarInfo Int) :=
  let now := context.now.micros
  match detailsOf draft with
  | .error error => (.error error, catalog)
  | .ok details =>
    if context.dialect.nativeUpsert then
      Outcome.andThen
        (context.write "query" (Catalog.amendNarInfoReturning draft.hash details now) catalog)
        fun row catalog => (found "narinfo" draft.hash row, catalog)
    else
      Outcome.andThen
        (context.write "query" (Catalog.amendNarInfo draft.hash details now) catalog)
        fun _ catalog => (narInfoByHash catalog draft.hash, catalog)

/-- Gets or creates the NAR file of a draft's key. -/
def createNarFile (context : Context) (draft : NarFile.Draft) (catalog : Catalog) :
    Outcome (NarFile Int) :=
  let now := context.now.micros
  match storable "file_size" draft.fileSize, storable "total_chunks" draft.totalChunks with
  | .error error, _ => (.error error, catalog)
  | _, .error error => (.error error, catalog)
  | .ok fileSize, .ok totalChunks =>
    if context.dialect.nativeUpsert then
      Outcome.andThen
        (context.write "create_nar_file"
          (Catalog.mergeNarFile draft.key fileSize totalChunks now) catalog)
        returned
    else
      inserted
        (context.write "create_nar_file"
          (Catalog.insertNarFile draft.key fileSize totalChunks now) catalog)
        narFileById
        fun catalog => (narFileByKey catalog draft.key, catalog)

/-- Gets or creates the chunk of a hash. -/
def createChunk (context : Context) (hash : String) (size : UInt32) (catalog : Catalog) :
    Outcome (Chunk Int) :=
  let now := context.now.micros
  if context.dialect.nativeUpsert then
    Outcome.andThen
      (context.write "create_chunk" (Catalog.mergeChunk hash size.toNat now) catalog)
      returned
  else
    inserted
      (context.write "create_chunk" (Catalog.insertChunk hash size.toNat now) catalog)
      chunkById
      fun catalog => (chunkByHash catalog hash, catalog)

/-- Creates a setting, whose key must not be taken. -/
def createSetting (context : Context) (key value : String) (catalog : Catalog) :
    Outcome (Setting Int) :=
  Outcome.andThen
    (context.write "create_config" (Catalog.insertSetting key value context.now.micros) catalog)
    fun _ catalog => (settingByKey catalog key, catalog)

end Store

end NarIndex
