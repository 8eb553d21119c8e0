import NarIndex.Catalog.Eviction
import NarIndex.Catalog.Listing
import NarIndex.Store.Answer
import NarIndex.Store.Outcome

/-!
# NarIndex.Store.Query

The calls that only read.
-/

namespace NarIndex.Store

/-! ## rows -/

def narInfoByHash (catalog : Catalog) (hash : String) : Except StoreError (NarInfo Int) :=
  found "narinfo" hash (catalog.narInfoByHash? hash)

def narInfoById (catalog : Catalog) (id : Int) : Except StoreError (NarInfo Int) :=
  found "narinfo" (toString id) (catalog.narInfoById? id)

def narFileByKey (catalog : Catalog) (key : NarFile.Key) : Except StoreError (NarFile Int) :=
  found "nar file" key.text (catalog.narFileByKey? key)

/-- The first form in which the NAR of a hash is stored. -/
def narFileByHash (catalog : Catalog) (hash : String) : Except StoreError (NarFile Int) :=
  found "nar file" hash (catalog.narFileByHash? hash)

def narFileById (catalog : Catalog) (id : Int) : Except StoreError (NarFile Int) :=
  found "nar file" (toString id) (catalog.narFileById? id)

/-- The NAR file that backs a NarInfo. -/
def narFileOfNarInfo (catalog : Catalog) (narInfo : Int) : Except StoreError (NarFile Int) :=
  found "nar file" ("for narinfo " ++ toString narInfo) (catalog.narFileOfNarInfo? narInfo)

def chunkByHash (catalog : Catalog) (hash : String) : Except StoreError (Chunk Int) :=
  found "chunk" hash (catalog.chunkByHash? hash)

def chunkById (catalog : Catalog) (id : Int) : Except StoreError (Chunk Int) :=
  found "chunk" (toString id) (catalog.chunkById? id)

def chunkAt (catalog : Catalog) (narFile index : Int) : Except StoreError (Chunk Int) :=
  found "chunk" ("index " ++ toString index ++ " of nar file " ++ toString narFile)
    (catalog.chunkAt? narFile index)

def settingByKey (catalog : Catalog) (key : String) : Except StoreError (Setting Int) :=
  found "config" key (catalog.settingByKey? key)

def settingById (catalog : Catalog) (id : Int) : Except StoreError (Setting Int) :=
  found "config" (toString id) (catalog.settingById? id)

/-! ## sizes -/

def totalFileSize (catalog : Catalog) : Except StoreError Nat := do
  sized "nar total size" (← summed catalog.totalFileSize)

def totalChunkSize (catalog : Catalog) : Except StoreError Nat := do
  sized "total chunk size" (← summed catalog.totalChunkSize)

/-- The NAR files used longest ago, as far as a budget goes. -/
def leastUsedFiles (catalog : Catalog) (budget : UInt64) :
    Except StoreError (List (NarFile Int)) := do
  listed (← (catalog.leastUsedFiles (clamped budget)).mapError .ofQuery)

/-- The NarInfos used longest ago, as far as a budget goes. -/
def leastUsedNarInfos (catalog : Catalog) (budget : UInt64) :
    Except StoreError (List (NarInfo Int)) := do
  listed (← (catalog.leastUsedNarInfos (clamped budget)).mapError .ofQuery)

/-! ## calls -/

/-- A call that only reads. -/
inductive Query where
  | kind
  | ping
  | narInfoByHash (hash : String)
  | narInfoById (id : Int)
  | countNarInfos
  | hashes
  | hashesByUrl (url : String)
  | hashesOfFile (narFile : Int)
  | narInfosWithoutFile
  | hashesToChunk
  | references (narInfo : Int)
  | signatures (narInfo : Int)
  | narFileByKey (key : NarFile.Key)
  | narFileByHash (hash : String)
  | narFileById (id : Int)
  | narFileOfNarInfo (narInfo : Int)
  | countNarFiles
  | totalFileSize
  | filesToChunk (limit : UInt64)
  | countFilesToChunk
  | anyChunkedFile
  | oldCompressedFiles (before : Time.Timestamp) (limit offset : UInt64)
  | chunkByHash (hash : String)
  | chunkById (id : Int)
  | chunkAt (narFile index : Int)
  | chunksOfFile (narFile : Int)
  | totalChunkSize
  | countChunks
  | leastUsedFiles (budget : UInt64)
  | leastUsedNarInfos (budget : UInt64)
  | orphanedFiles
  | orphanedNarInfos
  | orphanedChunks
  | unmigratedHashes
  | migratedHashes
  | migratedHashesPage (limit offset : UInt64)
  | isMigrated (hash : String)
  | compressedNarInfos (limit offset : UInt64)
  | settingByKey (key : String)
  | settingById (id : Int)
  deriving DecidableEq, Repr

/-- The answer of a call that only reads. -/
def Query.answer (dialect : Sql.Dialect) (catalog : Catalog) : Query → Except StoreError Answer
  | .kind => .ok (.kind dialect)
  | .ping => .ok .done
  | .narInfoByHash hash => (Store.narInfoByHash catalog hash).map .narInfo
  | .narInfoById id => (Store.narInfoById catalog id).map .narInfo
  | .countNarInfos => .ok (.count catalog.narInfos.length)
  | .hashes => .ok (.texts catalog.hashes)
  | .hashesByUrl url => .ok (.texts (catalog.hashesByUrl url))
  | .hashesOfFile narFile => .ok (.texts (catalog.hashesOfFile narFile))
  | .narInfosWithoutFile => (listed catalog.narInfosWithoutFile).map .narInfos
  | .hashesToChunk => .ok (.texts catalog.hashesToChunk)
  | .references narInfo => .ok (.texts (Catalog.textsOf catalog.references narInfo))
  | .signatures narInfo => .ok (.texts (Catalog.textsOf catalog.signatures narInfo))
  | .narFileByKey key => (Store.narFileByKey catalog key).map .narFile
  | .narFileByHash hash => (Store.narFileByHash catalog hash).map .narFile
  | .narFileById id => (Store.narFileById catalog id).map .narFile
  | .narFileOfNarInfo narInfo => (Store.narFileOfNarInfo catalog narInfo).map .narFile
  | .countNarFiles => .ok (.count catalog.narFiles.length)
  | .totalFileSize => (Store.totalFileSize catalog).map .count
  | .filesToChunk limit =>
    (listed (Catalog.page (clamped limit) 0 catalog.waitingFiles)).map .narFiles
  | .countFilesToChunk => .ok (.count (catalog.narFiles.countP Catalog.isWaiting))
  | .anyChunkedFile => .ok (.flag (catalog.narFiles.any Catalog.isCut))
  | .oldCompressedFiles before limit offset =>
    (listed (Catalog.page (clamped limit) (clamped offset)
      (catalog.compressedFilesBefore before.micros))).map .narFiles
  | .chunkByHash hash => (Store.chunkByHash catalog hash).map .chunk
  | .chunkById id => (Store.chunkById catalog id).map .chunk
  | .chunkAt narFile index => (Store.chunkAt catalog narFile index).map .chunk
  | .chunksOfFile narFile => (listed (catalog.chunksOf narFile)).map .chunks
  | .totalChunkSize => (Store.totalChunkSize catalog).map .count
  | .countChunks => .ok (.count catalog.chunks.length)
  | .leastUsedFiles budget => (Store.leastUsedFiles catalog budget).map .narFiles
  | .leastUsedNarInfos budget => (Store.leastUsedNarInfos catalog budget).map .narInfos
  | .orphanedFiles => (listed catalog.orphanedFiles).map .narFiles
  | .orphanedNarInfos => (listed catalog.orphanedNarInfos).map .narInfos
  | .orphanedChunks => (listed catalog.orphanedChunks).map .chunks
  | .unmigratedHashes => .ok (.texts catalog.unmigratedHashes)
  | .migratedHashes => .ok (.texts catalog.migratedHashes)
  | .migratedHashesPage limit offset =>
    .ok (.texts (Catalog.page (clamped limit) (clamped offset) catalog.migratedHashes))
  | .isMigrated hash => .ok (.flag (catalog.isMigrated hash))
  | .compressedNarInfos limit offset =>
    (listed (Catalog.page (clamped limit) (clamped offset) catalog.compressedNarInfos)).map
      .narInfos
  | .settingByKey key => (Store.settingByKey catalog key).map .setting
  | .settingById id => (Store.settingById catalog id).map .setting

end NarIndex.Store
