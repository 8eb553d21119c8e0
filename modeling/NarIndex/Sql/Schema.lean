import NarIndex.Sql.Dialect
import NarIndex.Text.Blank
import NarIndex.Text.Split

/-!
# NarIndex.Sql.Schema

The tables of the catalog, as the text that creates them in each dialect, and the statements of
such a text.
-/

namespace NarIndex.Sql

open NarIndex.Text

/-! ## statements -/

/-- Whether a line holds SQL: it is neither blank nor a comment. -/
def isSqlLine (line : List Char) : Bool :=
  let line := trim line
  !line.isEmpty && !"--".toList.isPrefixOf line

/-- The statement that stands between two semicolons, if there is one. -/
def statementOf? (piece : List Char) : Option (List Char) :=
  let statement := trim piece
  if (splitOn '\n' statement).any isSqlLine then some statement else none

/-- The statements of a schema, in its order, without white space around them; pieces that hold
nothing but comments are passed over. -/
def schemaStatements (schema : String) : List String :=
  ((splitOn ';' schema.toList).filterMap statementOf?).map String.ofList

/-! ## the schema -/

/-- Lines, each with its end. -/
def lines (texts : List String) : String :=
  String.join (texts.map (· ++ "\n"))

/-- The schema of the dialects that create indexes apart from tables.  `serial` is the type of an
id that counts up, `integer` that of every other number. -/
def separateSchema (title serial integer : String) : String :=
  lines [
    "-- narcache metadata schema (" ++ title ++ ")",
    "-- Timestamps are unix microseconds.",
    "",
    "CREATE TABLE IF NOT EXISTS narinfos (",
    "    id " ++ serial ++ " PRIMARY KEY,",
    "    hash TEXT NOT NULL UNIQUE,",
    "    store_path TEXT,",
    "    url TEXT,",
    "    compression TEXT,",
    "    file_hash TEXT,",
    "    file_size " ++ integer ++ ",",
    "    nar_hash TEXT,",
    "    nar_size " ++ integer ++ ",",
    "    deriver TEXT,",
    "    \"system\" TEXT,",
    "    ca TEXT,",
    "    created_at " ++ integer ++ " NOT NULL,",
    "    updated_at " ++ integer ++ ",",
    "    last_accessed_at " ++ integer ++ " NOT NULL",
    ");",
    "",
    "CREATE INDEX IF NOT EXISTS idx_narinfos_last_accessed_at ON narinfos (last_accessed_at);",
    "CREATE INDEX IF NOT EXISTS idx_narinfos_url ON narinfos (url);",
    "",
    "CREATE TABLE IF NOT EXISTS nar_files (",
    "    id " ++ serial ++ " PRIMARY KEY,",
    "    hash TEXT NOT NULL,",
    "    compression TEXT NOT NULL DEFAULT '',",
    "    query TEXT NOT NULL DEFAULT '',",
    "    file_size " ++ integer ++ " NOT NULL,",
    "    total_chunks " ++ integer ++ " NOT NULL DEFAULT 0,",
    "    chunking_started_at " ++ integer ++ ",",
    "    verified_at " ++ integer ++ ",",
    "    created_at " ++ integer ++ " NOT NULL,",
    "    updated_at " ++ integer ++ ",",
    "    last_accessed_at " ++ integer ++ " NOT NULL,",
    "    UNIQUE (hash, compression, query)",
    ");",
    "",
    "CREATE INDEX IF NOT EXISTS idx_nar_files_last_accessed_at ON nar_files (last_accessed_at);",
    "CREATE INDEX IF NOT EXISTS idx_nar_files_total_chunks ON nar_files (total_chunks);",
    "CREATE INDEX IF NOT EXISTS idx_nar_files_created_at ON nar_files (created_at);",
    "",
    "CREATE TABLE IF NOT EXISTS chunks (",
    "    id " ++ serial ++ " PRIMARY KEY,",
    "    hash TEXT NOT NULL UNIQUE,",
    "    size " ++ integer ++ " NOT NULL,",
    "    created_at " ++ integer ++ " NOT NULL,",
    "    updated_at " ++ integer,
    ");",
    "",
    "CREATE TABLE IF NOT EXISTS narinfo_references (",
    "    narinfo_id " ++ integer ++ " NOT NULL REFERENCES narinfos (id) ON DELETE CASCADE,",
    "    reference TEXT NOT NULL,",
    "    PRIMARY KEY (narinfo_id, reference)",
    ");",
    "",
    "CREATE TABLE IF NOT EXISTS narinfo_signatures (",
    "    narinfo_id " ++ integer ++ " NOT NULL REFERENCES narinfos (id) ON DELETE CASCADE,",
    "    signature TEXT NOT NULL,",
    "    PRIMARY KEY (narinfo_id, signature)",
    ");",
    "",
    "CREATE TABLE IF NOT EXISTS narinfo_narfile_links (",
    "    narinfo_id " ++ integer ++ " NOT NULL REFERENCES narinfos (id) ON DELETE CASCADE,",
    "    narfile_id " ++ integer ++ " NOT NULL REFERENCES nar_files (id) ON DELETE CASCADE,",
    "    PRIMARY KEY (narinfo_id, narfile_id)",
    ");",
    "",
    "CREATE INDEX IF NOT EXISTS idx_narinfo_narfile_links_narfile_id ON narinfo_narfile_links "
      ++ "(narfile_id);",
    "",
    "CREATE TABLE IF NOT EXISTS narfile_chunk_links (",
    "    narfile_id " ++ integer ++ " NOT NULL REFERENCES nar_files (id) ON DELETE CASCADE,",
    "    chunk_id " ++ integer ++ " NOT NULL REFERENCES chunks (id) ON DELETE CASCADE,",
    "    chunk_index " ++ integer ++ " NOT NULL,",
    "    PRIMARY KEY (narfile_id, chunk_index)",
    ");",
    "",
    "CREATE INDEX IF NOT EXISTS idx_narfile_chunk_links_chunk_id ON narfile_chunk_links "
      ++ "(chunk_id);",
    "",
    "CREATE TABLE IF NOT EXISTS config (",
    "    id " ++ serial ++ " PRIMARY KEY,",
    "    \"key\" TEXT NOT NULL UNIQUE,",
    "    value TEXT NOT NULL,",
    "    created_at " ++ integer ++ " NOT NULL,",
    "    updated_at " ++ integer,
    ");"]

/-- The schema of the dialect that declares indexes and foreign keys within its tables. -/
def inlineSchema : String :=
  lines [
    "-- narcache metadata schema (MySQL 8 / MariaDB 10.5+)",
    "-- Timestamps are unix microseconds. Indexes are declared inline because",
    "-- MySQL has no CREATE INDEX IF NOT EXISTS.",
    "",
    "CREATE TABLE IF NOT EXISTS narinfos (",
    "    id BIGINT NOT NULL AUTO_INCREMENT PRIMARY KEY,",
    "    hash VARCHAR(128) NOT NULL,",
    "    store_path VARCHAR(1024),",
    "    url VARCHAR(1024),",
    "    compression VARCHAR(32),",
    "    file_hash VARCHAR(128),",
    "    file_size BIGINT,",
    "    nar_hash VARCHAR(128),",
    "    nar_size BIGINT,",
    "    deriver VARCHAR(1024),",
    "    `system` VARCHAR(64),",
    "    ca VARCHAR(1024),",
    "    created_at BIGINT NOT NULL,",
    "    updated_at BIGINT,",
    "    last_accessed_at BIGINT NOT NULL,",
    "    UNIQUE KEY uq_narinfos_hash (hash),",
    "    KEY idx_narinfos_last_accessed_at (last_accessed_at),",
    "    KEY idx_narinfos_url (url(255))",
    ") ENGINE = InnoDB DEFAULT CHARSET = utf8mb4;",
    "",
    "CREATE TABLE IF NOT EXISTS nar_files (",
    "    id BIGINT NOT NULL AUTO_INCREMENT PRIMARY KEY,",
    "    hash VARCHAR(128) NOT NULL,",
    "    compression VARCHAR(32) NOT NULL DEFAULT '',",
    "    query VARCHAR(512) NOT NULL DEFAULT '',",
    "    file_size BIGINT NOT NULL,",
    "    total_chunks BIGINT NOT NULL DEFAULT 0,",
    "    chunking_started_at BIGINT,",
    "    verified_at BIGINT,",
    "    created_at BIGINT NOT NULL,",
    "    updated_at BIGINT,",
    "    last_accessed_at BIGINT NOT NULL,",
    "    UNIQUE KEY uq_nar_files_hash_compression_query (hash, compression, query),",
    "    KEY idx_nar_files_last_accessed_at (last_accessed_at),",
    "    KEY idx_nar_files_total_chunks (total_chunks),",
    "    KEY idx_nar_files_created_at (created_at)",
    ") ENGINE = InnoDB DEFAULT CHARSET = utf8mb4;",
    "",
    "CREATE TABLE IF NOT EXISTS chunks (",
    "    id BIGINT NOT NULL AUTO_INCREMENT PRIMARY KEY,",
    "    hash VARCHAR(128) NOT NULL,",
    "    size BIGINT NOT NULL,",
    "    created_at BIGINT NOT NULL,",
    "    updated_at BIGINT,",
    "    UNIQUE KEY uq_chunks_hash (hash)",
    ") ENGINE = InnoDB DEFAULT CHARSET = utf8mb4;",
    "",
    "CREATE TABLE IF NOT EXISTS narinfo_references (",
    "    narinfo_id BIGINT NOT NULL,",
    "    reference VARCHAR(512) NOT NULL,",
    "    PRIMARY KEY (narinfo_id, reference),",
    "    CONSTRAINT fk_narinfo_references_narinfo FOREIGN KEY (narinfo_id)",
    "        REFERENCES narinfos (id) ON DELETE CASCADE",
    ") ENGINE = InnoDB DEFAULT CHARSET = utf8mb4;",
    "",
    "CREATE TABLE IF NOT EXISTS narinfo_signatures (",
    "    narinfo_id BIGINT NOT NULL,",
    "    signature VARCHAR(512) NOT NULL,",
    "    PRIMARY KEY (narinfo_id, signature),",
    "    CONSTRAINT fk_narinfo_signatures_narinfo FOREIGN KEY (narinfo_id)",
    "        REFERENCES narinfos (id) ON DELETE CASCADE",
    ") ENGINE = InnoDB DEFAULT CHARSET = utf8mb4;",
    "",
    "CREATE TABLE IF NOT EXISTS narinfo_narfile_links (",
    "    narinfo_id BIGINT NOT NULL,",
    "    narfile_id BIGINT NOT NULL,",
    "    PRIMARY KEY (narinfo_id, narfile_id),",
    "    KEY idx_narinfo_narfile_links_narfile_id (narfile_id),",
    "    CONSTRAINT fk_narinfo_narfile_links_narinfo FOREIGN KEY (narinfo_id)",
    "        REFERENCES narinfos (id) ON DELETE CASCADE,",
    "    CONSTRAINT fk_narinfo_narfile_links_narfile FOREIGN KEY (narfile_id)",
    "        REFERENCES nar_files (id) ON DELETE CASCADE",
    ") ENGINE = InnoDB DEFAULT CHARSET = utf8mb4;",
    "",
    "CREATE TABLE IF NOT EXISTS narfile_chunk_links (",
    "    narfile_id BIGINT NOT NULL,",
    "    chunk_id BIGINT NOT NULL,",
    "    chunk_index BIGINT NOT NULL,",
    "    PRIMARY KEY (narfile_id, chunk_index),",
    "    KEY idx_narfile_chunk_links_chunk_id (chunk_id),",
    "    CONSTRAINT fk_narfile_chunk_links_narfile FOREIGN KEY (narfile_id)",
    "        REFERENCES nar_files (id) ON DELETE CASCADE,",
    "    CONSTRAINT fk_narfile_chunk_links_chunk FOREIGN KEY (chunk_id)",
    "        REFERENCES chunks (id) ON DELETE CASCADE",
    ") ENGINE = InnoDB DEFAULT CHARSET = utf8mb4;",
    "",
    "CREATE TABLE IF NOT EXISTS config (",
    "    id BIGINT NOT NULL AUTO_INCREMENT PRIMARY KEY,",
    "    `key` VARCHAR(255) NOT NULL,",
    "    value VARCHAR(4096) NOT NULL,",
    "    created_at BIGINT NOT NULL,",
    "    updated_at BIGINT,",
    "    UNIQUE KEY uq_config_key (`key`)",
    ") ENGINE = InnoDB DEFAULT CHARSET = utf8mb4;"]

/-- The schema of the catalog in a dialect. -/
def schema : Dialect → String
  | .sqlite => separateSchema "SQLite" "INTEGER" "INTEGER"
  | .postgres => separateSchema "PostgreSQL" "BIGSERIAL" "BIGINT"
  | .mysql => inlineSchema

end NarIndex.Sql
