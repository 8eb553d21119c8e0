import NarIndex.Sql.Bulk

/-!
# NarIndex.Sql.Statement

Every statement that the store runs, as a template and as the text of each dialect.  An insert
comes in two forms: the plain one, which fails where a row is already there, and the merging one,
which resolves the collision and returns the row.
-/

namespace NarIndex.Sql

/-! ## columns -/

/-- Names as a list in a statement. -/
def commaList (names : List String) : String :=
  ", ".intercalate names

/-- The columns of a NarInfo that describe it, in the order in which they are bound. -/
def describingColumns : List String :=
  ["store_path", "url", "compression", "file_hash", "file_size", "nar_hash", "nar_size", "deriver",
    "`system`", "ca"]

def narInfoColumns : List String :=
  ["id", "hash"] ++ describingColumns ++ ["created_at", "updated_at", "last_accessed_at"]

def narFileColumns : List String :=
  ["id", "hash", "compression", "query", "file_size", "total_chunks", "chunking_started_at",
    "verified_at", "created_at", "updated_at", "last_accessed_at"]

def chunkColumns : List String :=
  ["id", "hash", "size", "created_at", "updated_at"]

def settingColumns : List String :=
  ["id", "`key`", "value", "created_at", "updated_at"]

/-- Columns of a table that has a short name in the statement. -/
def qualified (short : String) (columns : List String) : String :=
  commaList (columns.map fun column => short ++ "." ++ column)

/-- A parameter for each of several values. -/
def parameters (count : Nat) : String :=
  commaList (List.replicate count "?")

/-! ## parts -/

/-- A plain insert of one row. -/
def insertInto (table : String) (columns : List String) : String :=
  "INSERT INTO " ++ table ++ " (" ++ commaList columns ++ ") VALUES (" ++ parameters columns.length
    ++ ")"

def insertNarInfoTemplate : String :=
  insertInto "narinfos" (["hash"] ++ describingColumns ++ ["created_at", "last_accessed_at"])

def insertNarFileTemplate : String :=
  insertInto "nar_files"
    ["hash", "compression", "query", "file_size", "total_chunks", "created_at", "last_accessed_at"]

def insertChunkTemplate : String :=
  insertInto "chunks" ["hash", "size", "created_at"]

def insertSettingTemplate : String :=
  insertInto "config" ["`key`", "value", "created_at"]

/-- In a merging insert, when the row that is there is a placeholder to be filled. -/
def fillsPlaceholder (dialect : Dialect) : String :=
  "narinfos.url IS NULL AND " ++ dialect.excluded "url" ++ " IS NOT NULL"

/-- The update of one column in a merging insert of a NarInfo: it changes only when a placeholder
is filled. -/
def fillAssignment (dialect : Dialect) (column source : String) : String :=
  column ++ " = CASE WHEN " ++ fillsPlaceholder dialect ++ " THEN " ++ dialect.excluded source
    ++ " ELSE narinfos." ++ column ++ " END"

/-- The updates of a merging insert of a NarInfo. -/
def fillAssignments (dialect : Dialect) : String :=
  commaList ((describingColumns.map fun column => fillAssignment dialect column column)
    ++ [fillAssignment dialect "updated_at" "last_accessed_at",
      fillAssignment dialect "last_accessed_at" "last_accessed_at"])

/-- The update of everything that describes a NarInfo. -/
def describeNarInfo : String :=
  "UPDATE narinfos SET " ++ commaList (describingColumns.map (· ++ " = ?"))
    ++ ", updated_at = ?, last_accessed_at = ? WHERE hash = ?"

/-- The condition that a compression names a codec. -/
def isCompressedCondition : String :=
  "compression NOT IN (?, ?)"

/-- The size of a NarInfo `ni` for eviction: that of the NAR files it is linked to, else its own,
else zero. -/
def evictionSize : String :=
  "COALESCE((SELECT SUM(f.file_size) FROM narinfo_narfile_links l JOIN nar_files f "
    ++ "ON f.id = l.narfile_id WHERE l.narinfo_id = ni.id), ni.file_size, 0)"

/-- Rows with the running total of a size, least recently used first. -/
def rankedBy (table size : String) (rows : String) : String :=
  "(SELECT " ++ table ++ ".*, SUM(" ++ size ++ ") OVER (ORDER BY last_accessed_at, id "
    ++ "ROWS UNBOUNDED PRECEDING) AS running_total FROM " ++ rows
    ++ ") ranked WHERE running_total <= ? ORDER BY last_accessed_at, id"

/-- The condition that no row of a link table points at a row. -/
def notLinked (links column row : String) : String :=
  "NOT EXISTS (SELECT 1 FROM " ++ links ++ " l WHERE l." ++ column ++ " = " ++ row ++ ".id)"

/-- The condition that no link leads to a NAR file. -/
def orphanedFileCondition : String :=
  notLinked "narinfo_narfile_links" "narfile_id" "nar_files"

/-- The condition that no link leaves a NarInfo. -/
def orphanedNarInfoCondition : String :=
  notLinked "narinfo_narfile_links" "narinfo_id" "narinfos"

/-- The condition that no link leads to a chunk. -/
def orphanedChunkCondition : String :=
  notLinked "narfile_chunk_links" "chunk_id" "chunks"

def selectNarInfos (rest : String) : String :=
  "SELECT " ++ commaList narInfoColumns ++ " FROM narinfos WHERE " ++ rest

def selectNarFiles (rest : String) : String :=
  "SELECT " ++ commaList narFileColumns ++ " FROM nar_files WHERE " ++ rest

def selectChunks (rest : String) : String :=
  "SELECT " ++ commaList chunkColumns ++ " FROM chunks WHERE " ++ rest

/-- A selection of the chunks that links lead to. -/
def selectLinkedChunks (rest : String) : String :=
  "SELECT " ++ qualified "c" chunkColumns
    ++ " FROM chunks c JOIN narfile_chunk_links l ON l.chunk_id = c.id WHERE " ++ rest

def selectSettings (rest : String) : String :=
  "SELECT " ++ commaList settingColumns ++ " FROM config WHERE " ++ rest

def fileKeyCondition : String :=
  "hash = ? AND compression = ? AND query = ?"

/-! ## statements -/

/-- A statement of the store. -/
inductive Statement where
  | ping
  | insertNarInfo | mergeNarInfo | fillPlaceholder
  | narInfoByHash | narInfoById
  | amendNarInfo | amendNarInfoReturning | setNarInfoFileSize | touchNarInfo
  | deleteNarInfoByHash | deleteNarInfoById
  | countNarInfos | narInfoHashes | narInfoHashesByUrl | narInfoHashesByFile
  | narInfosWithoutFile | narInfoHashesToChunk
  | linkNarInfoToFile
  | addReference | references | addSignature | signatures
  | insertNarFile | mergeNarFile
  | narFileByKey | narFileByHash | narFileById | narFileOfNarInfo
  | touchNarFile | deleteNarFileByKey | deleteNarFileById
  | countNarFiles | totalFileSize
  | setTotalChunks | setChunkingStarted | setVerified
  | filesToChunk | countFilesToChunk | anyChunkedFile | oldCompressedFiles
  | insertChunk | mergeChunk
  | chunkByHash | chunkById | chunkAt | chunksOfFile
  | totalChunkSize | countChunks | deleteChunkById
  | linkFileToChunk
  | leastUsedFiles | leastUsedNarInfos
  | orphanedFiles | deleteOrphanedFiles
  | orphanedNarInfos | deleteOrphanedNarInfos
  | orphanedChunks | deleteOrphanedChunks
  | unmigratedHashes | migratedHashes | migratedHashesPage | isMigrated | compressedNarInfos
  | settingByKey | settingById | insertSetting | mergeSetting
  deriving DecidableEq, Repr

namespace Statement

/-- The template of a statement. -/
def template (dialect : Dialect) : Statement → String
  | ping => "SELECT 1"
  | insertNarInfo => insertNarInfoTemplate
  | mergeNarInfo =>
    insertNarInfoTemplate ++ " " ++ dialect.onConflictUpdate "hash" (fillAssignments dialect)
      ++ " RETURNING " ++ commaList narInfoColumns
  | fillPlaceholder => describeNarInfo ++ " AND url IS NULL"
  | narInfoByHash => selectNarInfos "hash = ?"
  | narInfoById => selectNarInfos "id = ?"
  | amendNarInfo => describeNarInfo
  | amendNarInfoReturning => describeNarInfo ++ " RETURNING " ++ commaList narInfoColumns
  | setNarInfoFileSize => "UPDATE narinfos SET file_size = ? WHERE hash = ?"
  | touchNarInfo => "UPDATE narinfos SET last_accessed_at = ?, updated_at = ? WHERE hash = ?"
  | deleteNarInfoByHash => "DELETE FROM narinfos WHERE hash = ?"
  | deleteNarInfoById => "DELETE FROM narinfos WHERE id = ?"
  | countNarInfos => "SELECT COUNT(*) FROM narinfos"
  | narInfoHashes => "SELECT hash FROM narinfos ORDER BY hash"
  | narInfoHashesByUrl => "SELECT hash FROM narinfos WHERE url = ? ORDER BY hash"
  | narInfoHashesByFile =>
    "SELECT ni.hash FROM narinfos ni JOIN narinfo_narfile_links l ON l.narinfo_id = ni.id "
      ++ "WHERE l.narfile_id = ? ORDER BY ni.hash"
  | narInfosWithoutFile =>
    selectNarInfos ("url IS NOT NULL AND " ++ orphanedNarInfoCondition ++ " ORDER BY id")
  | narInfoHashesToChunk =>
    "SELECT DISTINCT ni.hash FROM narinfos ni "
      ++ "LEFT JOIN narinfo_narfile_links l ON l.narinfo_id = ni.id "
      ++ "LEFT JOIN nar_files f ON f.id = l.narfile_id "
      ++ "WHERE ni.url IS NOT NULL AND (f.id IS NULL OR f.total_chunks = 0) ORDER BY ni.hash"
  | linkNarInfoToFile =>
    "INSERT INTO narinfo_narfile_links (narinfo_id, narfile_id) VALUES (?, ?) "
      ++ dialect.onConflictIgnore "narinfo_id, narfile_id" "narfile_id"
  | addReference => Bulk.references.template dialect 1
  | references =>
    "SELECT reference FROM narinfo_references WHERE narinfo_id = ? ORDER BY reference"
  | addSignature => Bulk.signatures.template dialect 1
  | signatures =>
    "SELECT signature FROM narinfo_signatures WHERE narinfo_id = ? ORDER BY signature"
  | insertNarFile => insertNarFileTemplate
  | mergeNarFile =>
    insertNarFileTemplate ++ " "
      ++ dialect.onConflictUpdate "hash, compression, query" ("hash = " ++ dialect.excluded "hash")
      ++ " RETURNING " ++ commaList narFileColumns
  | narFileByKey => selectNarFiles fileKeyCondition
  | narFileByHash => selectNarFiles "hash = ? ORDER BY id LIMIT 1"
  | narFileById => selectNarFiles "id = ?"
  | narFileOfNarInfo =>
    "SELECT " ++ qualified "f" narFileColumns
      ++ " FROM nar_files f JOIN narinfo_narfile_links l ON l.narfile_id = f.id "
      ++ "WHERE l.narinfo_id = ? ORDER BY f.id LIMIT 1"
  | touchNarFile =>
    "UPDATE nar_files SET last_accessed_at = ?, updated_at = ? WHERE " ++ fileKeyCondition
  | deleteNarFileByKey => "DELETE FROM nar_files WHERE " ++ fileKeyCondition
  | deleteNarFileById => "DELETE FROM nar_files WHERE id = ?"
  | countNarFiles => "SELECT COUNT(*) FROM nar_files"
  | totalFileSize => "SELECT " ++ dialect.sumBigint "file_size" ++ " FROM nar_files"
  | setTotalChunks => "UPDATE nar_files SET total_chunks = ? WHERE id = ?"
  | setChunkingStarted => "UPDATE nar_files SET chunking_started_at = ? WHERE id = ?"
  | setVerified => "UPDATE nar_files SET verified_at = ? WHERE id = ?"
  | filesToChunk => selectNarFiles "total_chunks = 0 ORDER BY id LIMIT ?"
  | countFilesToChunk => "SELECT COUNT(*) FROM nar_files WHERE total_chunks = 0"
  | anyChunkedFile =>
    "SELECT COUNT(*) FROM (SELECT 1 AS one FROM nar_files WHERE total_chunks > 0 LIMIT 1) chunked"
  | oldCompressedFiles =>
    selectNarFiles (isCompressedCondition
      ++ " AND created_at < ? ORDER BY created_at, id LIMIT ? OFFSET ?")
  | insertChunk => insertChunkTemplate
  | mergeChunk =>
    insertChunkTemplate ++ " "
      ++ dialect.onConflictUpdate "hash" ("hash = " ++ dialect.excluded "hash")
      ++ " RETURNING " ++ commaList chunkColumns
  | chunkByHash => selectChunks "hash = ?"
  | chunkById => selectChunks "id = ?"
  | chunkAt => selectLinkedChunks "l.narfile_id = ? AND l.chunk_index = ?"
  | chunksOfFile => selectLinkedChunks "l.narfile_id = ? ORDER BY l.chunk_index"
  | totalChunkSize => "SELECT " ++ dialect.sumBigint "size" ++ " FROM chunks"
  | countChunks => "SELECT COUNT(*) FROM chunks"
  | deleteChunkById => "DELETE FROM chunks WHERE id = ?"
  | linkFileToChunk => Bulk.chunkLinks.template dialect 1
  | leastUsedFiles =>
    "SELECT " ++ commaList narFileColumns ++ " FROM "
      ++ rankedBy "nar_files" "file_size" "nar_files"
  | leastUsedNarInfos =>
    "SELECT " ++ commaList narInfoColumns ++ " FROM " ++ rankedBy "sized" "eviction_size"
      ("(SELECT ni.*, " ++ evictionSize ++ " AS eviction_size FROM narinfos ni) sized")
  | orphanedFiles => selectNarFiles (orphanedFileCondition ++ " ORDER BY id")
  | deleteOrphanedFiles => "DELETE FROM nar_files WHERE " ++ orphanedFileCondition
  | orphanedNarInfos => selectNarInfos (orphanedNarInfoCondition ++ " ORDER BY id")
  | deleteOrphanedNarInfos => "DELETE FROM narinfos WHERE " ++ orphanedNarInfoCondition
  | orphanedChunks => selectChunks (orphanedChunkCondition ++ " ORDER BY id")
  | deleteOrphanedChunks => "DELETE FROM chunks WHERE " ++ orphanedChunkCondition
  | unmigratedHashes => "SELECT hash FROM narinfos WHERE url IS NULL ORDER BY hash"
  | migratedHashes => "SELECT hash FROM narinfos WHERE url IS NOT NULL ORDER BY hash"
  | migratedHashesPage =>
    "SELECT hash FROM narinfos WHERE url IS NOT NULL ORDER BY hash LIMIT ? OFFSET ?"
  | isMigrated => "SELECT COUNT(*) FROM narinfos WHERE hash = ? AND url IS NOT NULL"
  | compressedNarInfos =>
    selectNarInfos ("compression IS NOT NULL AND " ++ isCompressedCondition
      ++ " ORDER BY id LIMIT ? OFFSET ?")
  | settingByKey => selectSettings "`key` = ?"
  | settingById => selectSettings "id = ?"
  | insertSetting => insertSettingTemplate
  | mergeSetting =>
    insertSettingTemplate ++ " " ++ dialect.onConflictUpdate "`key`"
      ("value = " ++ dialect.excluded "value" ++ ", updated_at = " ++ dialect.excluded "created_at")

/-- The text of a statement in a dialect. -/
def text (dialect : Dialect) (statement : Statement) : String :=
  render dialect (statement.template dialect)

end Statement

end NarIndex.Sql
