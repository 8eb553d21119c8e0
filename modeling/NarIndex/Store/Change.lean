import NarIndex.Catalog.Delete
import NarIndex.Catalog.Link
import NarIndex.Sql.Bulk
import NarIndex.Store.Create

/-!
# NarIndex.Store.Change

The calls that write.  Most of them are one statement.  Those that take a list write it in batches,
all of them or none.
-/

namespace NarIndex.Store

/-! ## single statements -/

/-- A call that yields how many rows its statement meant. -/
def counted (context : Context) (statement : Catalog.Write Nat) (catalog : Catalog) :
    Outcome Answer :=
  (context.write "query" statement catalog).map .count

/-- A call that yields how many rows its statement meant, after a size has been checked. -/
def countedWith (context : Context) (what : String) (size : UInt64)
    (statement : Int → Catalog.Write Nat) (catalog : Catalog) : Outcome Answer :=
  match storable what size with
  | .ok size => counted context (statement size) catalog
  | .error error => (.error error, catalog)

/-- A call that yields nothing. -/
def silent (outcome : Outcome Unit) : Outcome Answer :=
  outcome.map fun _ => .done

/-! ## lists -/

/-- Adds relations in batches, all of them or none. -/
def addInBatches {α : Type} (context : Context) (during : String)
    (add : α → Catalog → Except DriverError Catalog) (links : List α) (catalog : Catalog) :
    Outcome Unit :=
  context.atomically
    (context.writeAll during ((Sql.batches links).map (Catalog.addAll add))) catalog

/-- Puts chunks at places of a NAR file; there have to be as many chunks as places. -/
def linkFileToChunks (context : Context) (narFile : Int) (chunks indices : List Int)
    (catalog : Catalog) : Outcome Unit :=
  if chunks.length ≠ indices.length then
    (.error (.mismatchedInputLengths chunks.length indices.length), catalog)
  else
    addInBatches context "link_nar_file_to_chunks" Catalog.linkChunk
      (List.zipWith (ChunkLink.mk narFile) chunks indices) catalog

/-! ## calls -/

/-- A call that writes. -/
inductive Change where
  | createNarInfo (draft : NarInfo.Draft)
  | updateNarInfo (draft : NarInfo.Draft)
  | setNarInfoFileSize (hash : String) (size : UInt64)
  | touchNarInfo (hash : String)
  | deleteNarInfoByHash (hash : String)
  | deleteNarInfoById (id : Int)
  | linkNarInfoToFile (narInfo narFile : Int)
  | addReference (narInfo : Int) (reference : String)
  | addReferences (narInfo : Int) (references : List String)
  | addSignature (narInfo : Int) (signature : String)
  | addSignatures (narInfo : Int) (signatures : List String)
  | createNarFile (draft : NarFile.Draft)
  | touchNarFile (key : NarFile.Key)
  | deleteNarFileByKey (key : NarFile.Key)
  | deleteNarFileById (id : Int)
  | setTotalChunks (narFile : Int) (totalChunks : UInt64)
  | setChunkingStarted (narFile : Int)
  | setVerified (narFile : Int) (verifiedAt : Time.Timestamp)
  | createChunk (hash : String) (size : UInt32)
  | deleteChunkById (id : Int)
  | linkFileToChunk (narFile chunk index : Int)
  | linkFileToChunks (narFile : Int) (chunks indices : List Int)
  | deleteOrphanedFiles
  | deleteOrphanedNarInfos
  | deleteOrphanedChunks
  | setSetting (key value : String)
  | createSetting (key value : String)
  deriving DecidableEq, Repr

/-- Runs a call that writes. -/
def Change.run (context : Context) (change : Change) (catalog : Catalog) : Outcome Answer :=
  let now := context.now.micros
  match change with
  | .createNarInfo draft => (Store.createNarInfo context draft catalog).map .narInfo
  | .updateNarInfo draft => (Store.updateNarInfo context draft catalog).map .narInfo
  | .setNarInfoFileSize hash size =>
    countedWith context "file_size" size (Catalog.setNarInfoFileSize hash) catalog
  | .touchNarInfo hash => counted context (Catalog.touchNarInfo hash now) catalog
  | .deleteNarInfoByHash hash =>
    counted context (Catalog.deleteNarInfos fun _ row => row.hash == hash) catalog
  | .deleteNarInfoById id =>
    counted context (Catalog.deleteNarInfos fun _ row => row.id == id) catalog
  | .linkNarInfoToFile narInfo narFile =>
    silent (context.write "link_nar_info_to_nar_file"
      (Catalog.addAll (fun link => Catalog.linkFile link.narInfo link.narFile)
        [(⟨narInfo, narFile⟩ : FileLink)]) catalog)
  | .addReference narInfo reference =>
    silent (context.write "query" (Catalog.addAll Catalog.addReference [⟨narInfo, reference⟩])
      catalog)
  | .addReferences narInfo references =>
    silent (addInBatches context "query" Catalog.addReference
      (references.map (Attachment.mk narInfo)) catalog)
  | .addSignature narInfo signature =>
    silent (context.write "query" (Catalog.addAll Catalog.addSignature [⟨narInfo, signature⟩])
      catalog)
  | .addSignatures narInfo signatures =>
    silent (addInBatches context "query" Catalog.addSignature
      (signatures.map (Attachment.mk narInfo)) catalog)
  | .createNarFile draft => (Store.createNarFile context draft catalog).map .narFile
  | .touchNarFile key => counted context (Catalog.touchNarFile key now) catalog
  | .deleteNarFileByKey key =>
    counted context (Catalog.deleteNarFiles fun _ row => row.key == key) catalog
  | .deleteNarFileById id =>
    counted context (Catalog.deleteNarFiles fun _ row => row.id == id) catalog
  | .setTotalChunks narFile totalChunks =>
    countedWith context "total_chunks" totalChunks (Catalog.setTotalChunks narFile) catalog
  | .setChunkingStarted narFile =>
    counted context (Catalog.setChunkingStarted narFile now) catalog
  | .setVerified narFile verifiedAt =>
    counted context (Catalog.setVerified narFile verifiedAt.micros) catalog
  | .createChunk hash size => (Store.createChunk context hash size catalog).map .chunk
  | .deleteChunkById id =>
    counted context (Catalog.deleteChunks fun _ row => row.id == id) catalog
  | .linkFileToChunk narFile chunk index =>
    silent (context.write "link_nar_file_to_chunk"
      (Catalog.addAll Catalog.linkChunk [⟨narFile, chunk, index⟩]) catalog)
  | .linkFileToChunks narFile chunks indices =>
    silent (Store.linkFileToChunks context narFile chunks indices catalog)
  | .deleteOrphanedFiles => counted context Catalog.deleteOrphanedFiles catalog
  | .deleteOrphanedNarInfos => counted context Catalog.deleteOrphanedNarInfos catalog
  | .deleteOrphanedChunks => counted context Catalog.deleteOrphanedChunks catalog
  | .setSetting key value =>
    silent (context.write "set_config" (Catalog.mergeSetting key value now) catalog)
  | .createSetting key value => (Store.createSetting context key value catalog).map .setting

end NarIndex.Store
