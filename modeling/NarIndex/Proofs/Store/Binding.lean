import NarIndex.Proofs.Sql.Bulk
import NarIndex.Store.Change

/-!
# NarIndex.Proofs.Store.Binding

The statements of the calls that take lists.  Each of them has a parameter for every value that is
bound to it, and the rows that its parameters are in hold the values of the items of one batch, in
the order of the columns (`linesUp_flatMap`, `forall₂_linesUp_batches`).  The batches are those that
the calls add (`statements_line_up`).
-/

namespace NarIndex

namespace Sql

variable {α β : Type} {dialect : Dialect} {bulk : Bulk}

/-! ## rows of values -/

/-- The value that is bound to the parameter of a number. -/
def BoundStatement.datum? (bound : BoundStatement) : Nat → Option Datum
  | 0 => none
  | number + 1 => bound.values[number]?

/-- The rows that a statement inserts: the values of its parameters, as many in a row as there are
columns. -/
def BoundStatement.rows (dialect : Dialect) (width : Nat) (bound : BoundStatement) :
    List (List (Option Datum)) :=
  let data := (parametersOf dialect bound.text.toList).map bound.datum?
  (List.range (data.length / width)).map fun k => (data.drop (width * k)).take width

/-- A statement that inserts a batch: its text has a row of parameters for every item, as many
values are bound as there are parameters, and each row holds the values of its item, column by
column. -/
structure LinesUp (dialect : Dialect) (bulk : Bulk) (column : α → String → Option Datum)
    (bound : BoundStatement) (batch : List α) : Prop where
  text : HasRows dialect bulk batch.length bound.text
  count : bound.values.length = bulk.width * batch.length
  rows : bound.rows dialect bulk.width = batch.map fun item => bulk.columns.map (column item)

/-- Parameters that are numbered like the values stand for these, in their order. -/
theorem map_datum?_range' (bound : BoundStatement) :
    (List.range' 1 bound.values.length).map bound.datum? = bound.values.map some := by
  refine List.ext_getElem (by simp) fun k hk hk' => ?_
  rw [List.getElem_map, List.getElem_map, List.getElem_range', Nat.one_mul, Nat.add_comm,
    BoundStatement.datum?]
  exact List.getElem?_eq_getElem _

section
variable {width : Nat} {row : α → List β} (hrow : ∀ item, (row item).length = width)
include hrow

/-- Rows of one width are as long together as their number says. -/
theorem length_flatMap_rows (batch : List α) :
    (batch.flatMap row).length = width * batch.length := by
  induction batch with
  | nil => rfl
  | cons item batch ih =>
    rw [List.flatMap_cons, List.length_append, hrow, ih, List.length_cons, Nat.mul_succ,
      Nat.add_comm]

/-- Rows of one width that are put one behind the other are cut apart again. -/
theorem map_take_drop_flatMap (batch : List α) :
    (List.range batch.length).map (fun k => ((batch.flatMap row).drop (width * k)).take width)
      = batch.map row := by
  induction batch with
  | nil => rfl
  | cons item batch ih =>
    have hbehind (k : Nat) : (row item ++ batch.flatMap row).drop (width * (k + 1))
        = (batch.flatMap row).drop (width * k) := by
      rw [Nat.mul_succ, Nat.add_comm, ← List.drop_drop, ← hrow item, List.drop_left]
    have hfirst : (row item ++ batch.flatMap row).take width = row item := by
      rw [← hrow item, List.take_left]
    rw [List.length_cons, List.range_succ_eq_map, List.map_cons, List.map_map, List.flatMap_cons,
      List.map_cons, ← ih, Nat.mul_zero, List.drop_zero, hfirst]
    simp only [Function.comp_def, Nat.succ_eq_add_one, hbehind]

end

/-- An insert with the values of its items bound one after the other. -/
theorem linesUp_flatMap (column : α → String → Option Datum) (data : α → List Datum)
    (hplain : bulk.IsPlain dialect) (hwidth : 0 < bulk.width)
    (hdata : ∀ item, (data item).map some = bulk.columns.map (column item)) (batch : List α) :
    LinesUp dialect bulk column ⟨bulk.text dialect batch.length, batch.flatMap data⟩ batch := by
  have hlength : ∀ item, (data item).length = bulk.width := fun item => by
    simpa [Bulk.width] using congrArg List.length (hdata item)
  have hrow : ∀ item, (bulk.columns.map (column item)).length = bulk.width := fun item =>
    List.length_map _
  have htext := hasRows_text hplain batch.length
  have hcount := length_flatMap_rows hlength batch
  refine ⟨htext, hcount, ?_⟩
  have hvalues := map_datum?_range' ⟨bulk.text dialect batch.length, batch.flatMap data⟩
  rw [hcount, ← htext.parameters, List.map_flatMap] at hvalues
  simp only [hdata] at hvalues
  rw [BoundStatement.rows, hvalues, length_flatMap_rows hrow, Nat.mul_div_cancel_left _ hwidth]
  exact map_take_drop_flatMap hrow batch

/-! ## batches -/

/-- No batch is empty, and none is too long for a statement. -/
theorem forall_mem_batches (items : List α) :
    ∀ batch ∈ batches items, batch ≠ [] ∧ batch.length ≤ batchRows := by
  fun_induction batches items with
  | case1 => exact List.forall_mem_nil _
  | case2 item rest ih =>
    exact List.forall_mem_cons.2 ⟨⟨by simp [batchRows], List.length_take_le _ _⟩, ih⟩

/-- A list is cut by its length alone. -/
theorem batches_map (f : α → β) (items : List α) :
    batches (items.map f) = (batches items).map (List.map f) := by
  fun_induction batches items with
  | case1 => exact batches_nil
  | case2 item rest ih =>
    rw [batches_of_ne_nil (by simp), ← List.map_take, ← List.map_drop, ih, List.map_cons]

/-- The statements that are made of the batches of a list insert these batches. -/
theorem forall₂_linesUp_batches (column : α → String → Option Datum) (data : α → List Datum)
    (hplain : bulk.IsPlain dialect) (hwidth : 0 < bulk.width)
    (hdata : ∀ item, (data item).map some = bulk.columns.map (column item)) (f : β → α)
    (items : List β) :
    List.Forall₂ (LinesUp dialect bulk column)
      ((batches items).map fun batch =>
        ⟨bulk.text dialect batch.length, batch.flatMap fun item => data (f item)⟩)
      (batches (items.map f)) := by
  rw [batches_map, List.forall₂_map_left_iff, List.forall₂_map_right_iff]
  refine List.forall₂_same.2 fun batch _ => ?_
  have hlines := linesUp_flatMap column data hplain hwidth hdata (batch.map f)
  rwa [List.length_map, List.flatMap_map] at hlines

/-- Lists of one length are cut at the same places. -/
theorem bindChunkLinks_eq {chunks indices : List Int} (h : chunks.length = indices.length)
    (dialect : Dialect) (narFile : Int) :
    bindChunkLinks dialect narFile chunks indices
      = (batches (chunks.zip indices)).map fun batch =>
          ⟨Bulk.chunkLinks.text dialect batch.length, batch.flatMap fun (chunk, index) =>
            [.integer narFile, .integer chunk, .integer index]⟩ := by
  have hchunks : batches chunks = (batches (chunks.zip indices)).map (List.map Prod.fst) := by
    rw [← batches_map, List.map_fst_zip (Nat.le_of_eq h)]
  have hindices : batches indices = (batches (chunks.zip indices)).map (List.map Prod.snd) := by
    rw [← batches_map, List.map_snd_zip (Nat.le_of_eq h.symm)]
  have hzip (batch : List (Int × Int)) :
      List.zip (batch.map Prod.fst) (batch.map Prod.snd) = batch := by
    rw [← List.unzip_fst, ← List.unzip_snd, List.zip_unzip]
  rw [bindChunkLinks, hchunks, hindices, List.zipWith_map, List.zipWith_self]
  simp only [hzip, List.length_map]

end Sql

/-! ## columns -/

/-- The value that a link has in a column. -/
def ChunkLink.column (link : ChunkLink) : String → Option Sql.Datum
  | "narfile_id" => some (.integer link.narFile)
  | "chunk_id" => some (.integer link.chunk)
  | "chunk_index" => some (.integer link.index)
  | _ => none

/-- The value that a text of a NarInfo has in a column; `name` is that of the column of texts. -/
def Attachment.column (name : String) (attachment : Attachment) (column : String) :
    Option Sql.Datum :=
  if column = "narinfo_id" then some (.integer attachment.narInfo)
  else if column = name then some (.text attachment.text)
  else none

namespace Store

open Sql (Bulk BoundStatement Datum LinesUp HasRows batches batchRows)

variable {α : Type}

/-- The inserts of several rows. -/
def bulks : List Bulk :=
  [.chunkLinks, .references, .signatures]

/-- All inserts of several rows have nothing but plain names around their rows. -/
theorem isPlain_of_mem_bulks (dialect : Sql.Dialect) :
    ∀ bulk ∈ bulks, bulk.IsPlain dialect := by
  refine List.forall_mem_cons.2 ⟨?_, List.forall_mem_cons.2 ⟨?_, List.forall_mem_singleton.2 ?_⟩⟩
  · exact Sql.isPlain_into (by decide) dialect
  · exact Sql.isPlain_into (by decide) dialect
  · exact Sql.isPlain_into (by decide) dialect

/-- What a call does that writes a list: its statements insert the batches of the list, and the call
adds these batches, one after the other, all of them or none. -/
structure RunsStatements (context : Context) (change : Change) (bulk : Bulk)
    (column : α → String → Option Datum) (statements : List BoundStatement) (during : String)
    (add : α → Catalog → Except DriverError Catalog) (items : List α) : Prop where
  linesUp : List.Forall₂ (LinesUp context.dialect bulk column) statements (batches items)
  runs : ∀ catalog, change.run context catalog
    = silent (context.atomically
        (context.writeAll during ((batches items).map (Catalog.addAll add))) catalog)

/-- A list that is cut into batches small enough for one statement each. -/
structure InBatches (items : List α) (groups : List (List α)) : Prop where
  flatten : groups.flatten = items
  nonempty : ∀ group ∈ groups, group ≠ []
  rows : ∀ group ∈ groups, group.length ≤ 300
  parameters : ∀ group ∈ groups, ∀ bulk ∈ bulks, bulk.width * group.length ≤ 900

/-- Every list is cut so. -/
theorem inBatches_batches (items : List α) : InBatches items (batches items) where
  flatten := Sql.flatten_batches items
  nonempty group hgroup := (Sql.forall_mem_batches items group hgroup).1
  rows group hgroup := (Sql.forall_mem_batches items group hgroup).2
  parameters group hgroup bulk hbulk := by
    have hrows : group.length ≤ 300 := (Sql.forall_mem_batches items group hgroup).2
    have hwidth : ∀ bulk ∈ bulks, bulk.width ≤ 3 := by decide
    calc bulk.width * group.length
      _ ≤ 3 * 300 := Nat.mul_le_mul (hwidth bulk hbulk) hrows
      _ = 900 := rfl

/-- The inserts of links bring in the batches of the links. -/
theorem forall₂_bindChunkLinks {chunks indices : List Int} (h : chunks.length = indices.length)
    (dialect : Sql.Dialect) (narFile : Int) :
    List.Forall₂ (LinesUp dialect .chunkLinks ChunkLink.column)
      (Sql.bindChunkLinks dialect narFile chunks indices)
      (batches (List.zipWith (ChunkLink.mk narFile) chunks indices)) := by
  have hitems : List.zipWith (ChunkLink.mk narFile) chunks indices
      = (chunks.zip indices).map fun (chunk, index) => ⟨narFile, chunk, index⟩ := by
    rw [List.zip_eq_zipWith, List.map_zipWith]
  rw [Sql.bindChunkLinks_eq h, hitems]
  exact Sql.forall₂_linesUp_batches ChunkLink.column
    (fun link => [.integer link.narFile, .integer link.chunk, .integer link.index])
    (isPlain_of_mem_bulks dialect .chunkLinks (by decide)) (by decide) (fun _ => rfl)
    (fun (chunk, index) => ⟨narFile, chunk, index⟩) (chunks.zip indices)

/-- The inserts of texts bring in the batches of the texts. -/
theorem forall₂_bindTexts {bulk : Bulk} {name : String} (hbulk : bulk ∈ bulks)
    (hcolumns : bulk.columns = ["narinfo_id", name]) (hname : name ≠ "narinfo_id")
    (dialect : Sql.Dialect) (narInfo : Int) (texts : List String) :
    List.Forall₂ (LinesUp dialect bulk (Attachment.column name))
      (Sql.bindTexts bulk dialect narInfo texts)
      (batches (texts.map (Attachment.mk narInfo))) :=
  Sql.forall₂_linesUp_batches (Attachment.column name)
    (fun attachment => [.integer attachment.narInfo, .text attachment.text])
    (isPlain_of_mem_bulks dialect bulk hbulk) (by simp [Bulk.width, hcolumns])
    (fun attachment => by simp [hcolumns, Attachment.column, hname])
    (Attachment.mk narInfo) texts

/-- Statements of several rows and the values that are bound to them line up, for every dialect and
every number of rows.  The parameters are numbered from the first row to the last, and a row has one
for each column.  A call that takes a list binds to each of its statements as many values as that
has parameters, so that each row holds the values of one item, column by column; the batches of
items are what the call adds, and put end to end they are the list. -/
theorem statements_line_up :
    (Bulk.chunkLinks.width = 3 ∧ Bulk.references.width = 2 ∧ Bulk.signatures.width = 2) ∧
    (∀ dialect, ∀ bulk ∈ bulks, ∀ rows, HasRows dialect bulk rows (bulk.text dialect rows)) ∧
    (∀ (context : Context) narFile chunks indices, chunks.length = indices.length →
      RunsStatements context (.linkFileToChunks narFile chunks indices) .chunkLinks
        ChunkLink.column (Sql.bindChunkLinks context.dialect narFile chunks indices)
        "link_nar_file_to_chunks" Catalog.linkChunk
        (List.zipWith (ChunkLink.mk narFile) chunks indices)) ∧
    (∀ (context : Context) narInfo texts,
      RunsStatements context (.addReferences narInfo texts) .references
        (Attachment.column "reference") (Sql.bindTexts .references context.dialect narInfo texts)
        "query" Catalog.addReference (texts.map (Attachment.mk narInfo))) ∧
    (∀ (context : Context) narInfo texts,
      RunsStatements context (.addSignatures narInfo texts) .signatures
        (Attachment.column "signature") (Sql.bindTexts .signatures context.dialect narInfo texts)
        "query" Catalog.addSignature (texts.map (Attachment.mk narInfo))) ∧
    ∀ (α : Type) (items : List α), InBatches items (batches items) := by
  refine ⟨by decide, fun dialect bulk hbulk => ?_, fun context narFile chunks indices h => ?_,
    fun context narInfo texts => ?_, fun context narInfo texts => ?_, fun _ => inBatches_batches⟩
  · exact Sql.hasRows_text (isPlain_of_mem_bulks dialect bulk hbulk)
  · refine ⟨forall₂_bindChunkLinks h context.dialect narFile, fun catalog => ?_⟩
    rw [Change.run, linkFileToChunks, if_neg (not_not_intro h)]
    rfl
  · exact ⟨forall₂_bindTexts (by decide) rfl (by decide) _ _ _, fun _ => rfl⟩
  · exact ⟨forall₂_bindTexts (by decide) rfl (by decide) _ _ _, fun _ => rfl⟩

/-- Links that are one more than a statement takes: the last of them has a statement of its own. -/
theorem statements_line_up_next_batch :
    (List.replicate 301 (7 : Int)).length = (List.replicate 301 (0 : Int)).length ∧
      Bulk.references ∈ bulks ∧
      HasRows .postgres .references 2 (Bulk.references.text .postgres 2) ∧
      ∃ first last, Sql.bindChunkLinks .postgres 1 (List.replicate 301 7) (List.replicate 301 0)
          = [first, last] ∧ first.values.length = 900 ∧ last.values.length = 3 := by
  obtain ⟨-, htexts, hlinks, -⟩ := statements_line_up
  have hlength : (List.replicate 301 (7 : Int)).length = (List.replicate 301 (0 : Int)).length := by
    rw [List.length_replicate, List.length_replicate]
  have hlines := (hlinks { dialect := .postgres, now := .epoch } 1 _ _ hlength).linesUp
  have hitems : List.zipWith (ChunkLink.mk 1) (List.replicate 301 7) (List.replicate 301 0)
      = List.replicate batchRows ⟨1, 7, 0⟩ ++ [⟨1, 7, 0⟩] := by
    rw [List.zipWith_replicate]
    exact List.replicate_succ'
  have hbatches : batches (List.replicate batchRows (ChunkLink.mk 1 7 0) ++ [⟨1, 7, 0⟩])
      = [List.replicate batchRows ⟨1, 7, 0⟩, [⟨1, 7, 0⟩]] := by
    rw [Sql.batches_of_ne_nil (by simp), List.take_left' List.length_replicate,
      List.drop_left' List.length_replicate, Sql.batches_of_ne_nil (List.cons_ne_nil _ _)]
    exact congrArg _ (congrArg _ Sql.batches_nil)
  rw [hitems, hbatches] at hlines
  refine ⟨hlength, by decide, htexts .postgres .references (by decide) 2, ?_⟩
  obtain ⟨first, rest, hfirst, hrest, hstatements⟩ := List.forall₂_cons_right_iff.1 hlines
  obtain ⟨last, behind, hlast, hnil, rfl⟩ := List.forall₂_cons_right_iff.1 hrest
  obtain rfl := List.forall₂_nil_right_iff.1 hnil
  refine ⟨first, last, hstatements, ?_, hlast.count⟩
  rw [hfirst.count, List.length_replicate]
  rfl

end Store

end NarIndex
