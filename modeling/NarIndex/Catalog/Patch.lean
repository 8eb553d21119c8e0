import NarIndex.Catalog.Insert
import NarIndex.Text.Case

/-!
# NarIndex.Catalog.Patch

Setting one column of one row by hand.  A patch is bound only by what every table keeps up: columns
that need a value, keys that are unique, and relations that lead to rows.  So it can leave rows that
cannot be read.  Tables and columns are named in either letter case.
-/

namespace NarIndex.Catalog

/-- A value for a column. -/
inductive Cell where
  | integer (value : Int)
  | text (value : String)
  | null
  deriving DecidableEq, Repr

/-- Whether a name, in either letter case, is one that is written in lower case. -/
def isNamed (name lower : String) : Bool :=
  Text.toLower name.toList == lower.toList

/-! ## tables -/

/-- The tables, by their contents. -/
inductive Table where
  | narInfos
  | narFiles
  | chunks
  | settings
  | references
  | signatures
  | fileLinks
  | chunkLinks
  deriving DecidableEq, Repr

namespace Table

/-- The name of a table. -/
def name : Table → String
  | .narInfos => "narinfos"
  | .narFiles => "nar_files"
  | .chunks => "chunks"
  | .settings => "config"
  | .references => "narinfo_references"
  | .signatures => "narinfo_signatures"
  | .fileLinks => "narinfo_narfile_links"
  | .chunkLinks => "narfile_chunk_links"

def all : List Table :=
  [.narInfos, .narFiles, .chunks, .settings, .references, .signatures, .fileLinks, .chunkLinks]

def named? (name : String) : Option Table :=
  all.find? fun table => isNamed name table.name

end Table

/-! ## columns -/

/-- A column of a table of rows, and how it is set. -/
structure Column (α : Type) where
  name : String
  set : Cell → α → Except DriverError α

/-- The value that a column of integers keeps of a cell. -/
def Cell.value? : Cell → Option Value
  | .integer value => some (.integer value)
  | .text value => some (.ofText value)
  | .null => none

/-- The text that a column of texts keeps of a cell. -/
def Cell.text? : Cell → Option String
  | .integer value => some (toString value)
  | .text value => some value
  | .null => none

/-- The names of the id of a row. -/
def idNames : List String :=
  ["id", "rowid", "oid", "_rowid_"]

namespace Column

variable {α : Type}

/-- Whether a column has a name. -/
def answersTo (name : String) (column : Column α) : Bool :=
  isNamed name column.name || (column.name == "id" && idNames.any (isNamed name))

/-- The column of ids, which holds nothing but integers. -/
def id (put : Int → α → α) : Column α :=
  ⟨"id", fun cell row =>
    match cell.value? with
    | some (.integer value) => .ok (put value row)
    | _ => .error .typeMismatched⟩

/-- A column of integers that may be empty. -/
def integer? (name : String) (put : Option Value → α → α) : Column α :=
  ⟨name, fun cell row => .ok (put cell.value? row)⟩

/-- A column of texts that may be empty. -/
def text? (name : String) (put : Option String → α → α) : Column α :=
  ⟨name, fun cell row => .ok (put cell.text? row)⟩

/-- A column of integers. -/
def integer (table : Table) (name : String) (put : Value → α → α) : Column α :=
  ⟨name, fun cell row =>
    match cell.value? with
    | some value => .ok (put value row)
    | none => .error (.notNullViolated (table.name ++ "." ++ name))⟩

/-- A column of texts. -/
def text (table : Table) (name : String) (put : String → α → α) : Column α :=
  ⟨name, fun cell row =>
    match cell.text? with
    | some value => .ok (put value row)
    | none => .error (.notNullViolated (table.name ++ "." ++ name))⟩

end Column

/-- The columns of NarInfos. -/
def narInfoColumns : List (Column (NarInfo Value)) :=
  let detail (f : NarInfo.Details Value → NarInfo.Details Value) (row : NarInfo Value) :
      NarInfo Value :=
    { row with details := f row.details }
  [.id fun id row => { row with id },
    .text .narInfos "hash" fun hash row => { row with hash },
    .text? "store_path" fun storePath => detail ({ · with storePath }),
    .text? "url" fun url => detail ({ · with url }),
    .text? "compression" fun compression => detail ({ · with compression }),
    .text? "file_hash" fun fileHash => detail ({ · with fileHash }),
    .integer? "file_size" fun fileSize => detail ({ · with fileSize }),
    .text? "nar_hash" fun narHash => detail ({ · with narHash }),
    .integer? "nar_size" fun narSize => detail ({ · with narSize }),
    .text? "deriver" fun deriver => detail ({ · with deriver }),
    .text? "system" fun system => detail ({ · with system }),
    .text? "ca" fun contentAddress => detail ({ · with contentAddress }),
    .integer .narInfos "created_at" fun createdAt row => { row with createdAt },
    .integer? "updated_at" fun updatedAt row => { row with updatedAt },
    .integer .narInfos "last_accessed_at" fun lastAccessedAt row => { row with lastAccessedAt }]

/-- The columns of NAR files. -/
def narFileColumns : List (Column (NarFile Value)) :=
  let part (f : NarFile.Key → NarFile.Key) (row : NarFile Value) : NarFile Value :=
    { row with key := f row.key }
  [.id fun id row => { row with id },
    .text .narFiles "hash" fun hash => part ({ · with hash }),
    .text .narFiles "compression" fun compression => part ({ · with compression }),
    .text .narFiles "query" fun query => part ({ · with query }),
    .integer .narFiles "file_size" fun fileSize row => { row with fileSize },
    .integer .narFiles "total_chunks" fun totalChunks row => { row with totalChunks },
    .integer? "chunking_started_at" fun chunkingStartedAt row => { row with chunkingStartedAt },
    .integer? "verified_at" fun verifiedAt row => { row with verifiedAt },
    .integer .narFiles "created_at" fun createdAt row => { row with createdAt },
    .integer? "updated_at" fun updatedAt row => { row with updatedAt },
    .integer .narFiles "last_accessed_at" fun lastAccessedAt row => { row with lastAccessedAt }]

/-- The columns of chunks. -/
def chunkColumns : List (Column (Chunk Value)) :=
  [.id fun id row => { row with id },
    .text .chunks "hash" fun hash row => { row with hash },
    .integer .chunks "size" fun size row => { row with size },
    .integer .chunks "created_at" fun createdAt row => { row with createdAt },
    .integer? "updated_at" fun updatedAt row => { row with updatedAt }]

/-- The columns of settings. -/
def settingColumns : List (Column (Setting Value)) :=
  [.id fun id row => { row with id },
    .text .settings "key" fun key row => { row with key },
    .text .settings "value" fun value row => { row with value },
    .integer .settings "created_at" fun createdAt row => { row with createdAt },
    .integer? "updated_at" fun updatedAt row => { row with updatedAt }]

/-- The columns of the tables whose rows have no ids. -/
def relationColumns : Table → List String
  | .references => ["narinfo_id", "reference"]
  | .signatures => ["narinfo_id", "signature"]
  | .fileLinks => ["narinfo_id", "narfile_id"]
  | .chunkLinks => ["narfile_id", "chunk_id", "chunk_index"]
  | _ => []

/-- The column of a name. -/
def findColumn {α : Type} (columns : List (Column α)) (name : String) :
    Except DriverError (Column α) :=
  match columns.find? (·.answersTo name) with
  | some column => .ok column
  | none => .error (.noSuchColumn name)

/-- The error of setting a column of a table whose rows have no ids. -/
def relationError (table : Table) (column : String) : DriverError :=
  if (relationColumns table).any (isNamed column) || (idNames.drop 1).any (isNamed column) then
    .noSuchColumn "id"
  else .noSuchColumn column

/-! ## rows -/

/-- What a table asks of its rows. -/
structure Rules (α κ : Type) where
  table : Table
  id : α → Int
  /-- The natural key. -/
  key : α → κ
  /-- The columns of the natural key. -/
  keyColumns : String
  /-- Whether a relation leads to an id. -/
  isReferenced : Int → Bool

/-- The rows of a table with one column of one row set, and the number of rows that meant. -/
def patchRows {α κ : Type} [BEq κ] (rules : Rules α κ) (rows : List α) (id : Int)
    (column : Column α) (cell : Cell) : Except DriverError (Nat × List α) :=
  match rows.find? (rules.id · == id) with
  | none => .ok (0, rows)
  | some old => do
    let row ← column.set cell old
    let others := rows.filter (rules.id · != id)
    if others.any (rules.id · == rules.id row) then
      throw (.primaryKeyViolated (rules.table.name ++ ".id"))
    if others.any (rules.key · == rules.key row) then throw (.uniqueViolated rules.keyColumns)
    if rules.id row != id && rules.isReferenced id then throw .foreignKeyViolated
    return (1, mapWhere (rules.id · == id) (fun _ => row) rows)

def refersToNarInfo (catalog : Catalog) (id : Int) : Bool :=
  catalog.references.any (·.narInfo == id) || catalog.signatures.any (·.narInfo == id)
    || catalog.fileLinks.any (·.narInfo == id)

def refersToNarFile (catalog : Catalog) (id : Int) : Bool :=
  catalog.fileLinks.any (·.narFile == id) || catalog.chunkLinks.any (·.narFile == id)

def refersToChunk (catalog : Catalog) (id : Int) : Bool :=
  catalog.chunkLinks.any (·.chunk == id)

/-! ## statements -/

/-- The statement that sets one column of one row, and yields the number of rows that meant.  There
is none if the table or the column is unknown. -/
def patch (table : String) (id : Int) (column : String) (cell : Cell) :
    Except DriverError (Write Nat) :=
  match Table.named? table with
  | none => .error (.noSuchTable table)
  | some .narInfos => do
    let column ← findColumn narInfoColumns column
    return fun catalog => do
      let rules : Rules (NarInfo Value) String :=
        ⟨.narInfos, (·.id), (·.hash), "narinfos.hash", catalog.refersToNarInfo⟩
      let (count, narInfos) ← patchRows rules catalog.narInfos id column cell
      return (count, { catalog with narInfos })
  | some .narFiles => do
    let column ← findColumn narFileColumns column
    return fun catalog => do
      let rules : Rules (NarFile Value) NarFile.Key :=
        ⟨.narFiles, (·.id), (·.key), "nar_files.hash, nar_files.compression, nar_files.query",
          catalog.refersToNarFile⟩
      let (count, narFiles) ← patchRows rules catalog.narFiles id column cell
      return (count, { catalog with narFiles })
  | some .chunks => do
    let column ← findColumn chunkColumns column
    return fun catalog => do
      let rules : Rules (Chunk Value) String :=
        ⟨.chunks, (·.id), (·.hash), "chunks.hash", catalog.refersToChunk⟩
      let (count, chunks) ← patchRows rules catalog.chunks id column cell
      return (count, { catalog with chunks })
  | some .settings => do
    let column ← findColumn settingColumns column
    return fun catalog => do
      let rules : Rules (Setting Value) String :=
        ⟨.settings, (·.id), (·.key), "config.key", fun _ => false⟩
      let (count, settings) ← patchRows rules catalog.settings id column cell
      return (count, { catalog with settings })
  | some table => .error (relationError table column)

end NarIndex.Catalog
