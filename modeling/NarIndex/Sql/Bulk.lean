import NarIndex.Sql.Template

/-!
# NarIndex.Sql.Bulk

Inserts of several rows in one statement.  The text depends on the number of rows, so it is made
for each call; a long list is written in batches, each short enough for the number of parameters
that a statement may have.
-/

namespace NarIndex.Sql

/-- The parts of an insert of several rows. -/
structure Bulk where
  /-- Everything before the rows. -/
  head : String
  /-- The columns that are filled. -/
  columns : List String
  /-- The columns whose values have to be unique. -/
  target : String
  /-- A column to assign to itself where a collision has to be ignored that way. -/
  ignored : String
  deriving DecidableEq, Repr

namespace Bulk

/-- An insert into a table. -/
def into (table : String) (columns : List String) (target ignored : String) : Bulk :=
  ⟨"INSERT INTO " ++ table ++ " (" ++ ", ".intercalate columns ++ ") VALUES ", columns, target,
    ignored⟩

def chunkLinks : Bulk :=
  into "narfile_chunk_links" ["narfile_id", "chunk_id", "chunk_index"] "narfile_id, chunk_index"
    "chunk_id"

def references : Bulk :=
  into "narinfo_references" ["narinfo_id", "reference"] "narinfo_id, reference" "reference"

def signatures : Bulk :=
  into "narinfo_signatures" ["narinfo_id", "signature"] "narinfo_id, signature" "signature"

/-- The number of values in a row. -/
def width (bulk : Bulk) : Nat :=
  bulk.columns.length

/-- The template of one row: a parameter for each column. -/
def row (bulk : Bulk) : String :=
  "(" ++ ", ".intercalate (bulk.columns.map fun _ => "?") ++ ")"

/-- The template of an insert of `rows` rows. -/
def template (bulk : Bulk) (dialect : Dialect) (rows : Nat) : String :=
  bulk.head ++ ", ".intercalate (List.replicate rows bulk.row) ++ " "
    ++ dialect.onConflictIgnore bulk.target bulk.ignored

/-- The text of an insert of `rows` rows. -/
def text (bulk : Bulk) (dialect : Dialect) (rows : Nat) : String :=
  render dialect (bulk.template dialect rows)

end Bulk

/-! ## batches -/

/-- The most rows that one statement inserts: three columns of 300 rows stay under the 999
parameters that a statement may have. -/
def batchRows : Nat := 300

/-- A list cut into batches of `batchRows`, the last one possibly shorter. -/
def batches {α : Type} (items : List α) : List (List α) :=
  match items with
  | [] => []
  | item :: rest =>
    (item :: rest).take batchRows :: batches ((item :: rest).drop batchRows)
termination_by items.length
decreasing_by simp only [batchRows, List.length_drop, List.length_cons]; omega

@[simp] theorem batches_nil {α : Type} : batches ([] : List α) = [] := by
  simp [batches]

theorem batches_of_ne_nil {α : Type} {items : List α} (h : items ≠ []) :
    batches items = items.take batchRows :: batches (items.drop batchRows) := by
  cases items with
  | nil => contradiction
  | cons item rest => rw [batches]

/-- Batches hold the list in order, with nothing lost or repeated. -/
theorem flatten_batches {α : Type} (items : List α) : (batches items).flatten = items := by
  fun_induction batches items with
  | case1 => rfl
  | case2 item rest ih => rw [List.flatten_cons, ih, List.take_append_drop]

end NarIndex.Sql
