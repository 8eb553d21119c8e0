import NarIndex.Sql.Bulk

/-!
# NarIndex.Sql.Binding

Inserts of several rows with the values for their parameters.  Each batch of a list is one
statement, and the values of its items are bound one after the other, in the order of the columns.
-/

namespace NarIndex.Sql

/-- A value that is bound to a parameter. -/
inductive Datum where
  | integer (n : Int)
  | text (s : String)
  deriving DecidableEq, Repr

/-- A statement with the values that are bound to its parameters, in their order. -/
structure BoundStatement where
  text : String
  values : List Datum
  deriving DecidableEq, Repr

/-- The inserts that put chunks at places of a NAR file. -/
def bindChunkLinks (dialect : Dialect) (narFile : Int) (chunks indices : List Int) :
    List BoundStatement :=
  List.zipWith
    (fun chunks indices =>
      { text := Bulk.chunkLinks.text dialect chunks.length
        values := (chunks.zip indices).flatMap fun (chunk, index) =>
          [.integer narFile, .integer chunk, .integer index] })
    (batches chunks) (batches indices)

/-- The inserts that add texts to a NarInfo. -/
def bindTexts (bulk : Bulk) (dialect : Dialect) (narInfo : Int) (texts : List String) :
    List BoundStatement :=
  (batches texts).map fun batch =>
    { text := bulk.text dialect batch.length
      values := batch.flatMap fun text => [.integer narInfo, .text text] }

end NarIndex.Sql
