import NarIndex.Proofs.Catalog.Affordable
import NarIndex.Proofs.Catalog.Lookup
import NarIndex.Proofs.Catalog.WellFormed

/-!
# NarIndex.Proofs.Catalog.Listing

What the lists are that the jobs around the store work through.  The condition of a statement and
the predicate on texts name the same codecs (`isNoneOf_uncompressed`).  A statement that joins the
NAR files of a NarInfo over its links, where there may be none, finds no file just when there is no
link; for no link leads nowhere where the tables are well formed (`hashesToChunk_eq`).
-/

namespace NarIndex.Catalog

/-! ## compression -/

/-- A column that is set, and to none of the values that mean "not compressed", names a codec. -/
theorem isNoneOf_uncompressed {column : Option String} :
    isNoneOf Compression.uncompressed column
      ↔ ∃ text, column = some text ∧ Compression.isCompressed text := by
  cases column with
  | none => simp [isNoneOf]
  | some text => simp [isNoneOf, Compression.isCompressed, Compression.uncompressed]

/-- The compressed NAR files that came in before a time are put in the order of the times at which
they came in. -/
theorem compressedFilesBefore_eq (catalog : Catalog) (micros : Int) :
    catalog.compressedFilesBefore micros
      = byUse (·.createdAt) (·.id) (catalog.narFiles.filter fun row =>
          isNoneOf Compression.uncompressed (some row.key.compression)
            && row.createdAt.lt (.integer micros)) :=
  rfl

/-! ## files that a NarInfo is linked to -/

section linkedFiles

variable {catalog : Catalog} {row : NarInfo Value}

/-- A link that is there leads to a NAR file. -/
theorem exists_narFileById? (h : catalog.WellFormed) {link : FileLink}
    (hlink : link ∈ catalog.fileLinks) :
    ∃ file, catalog.narFileById? link.narFile = some file := by
  have hends := (h.fileLinks.ends_exist link hlink).2
  rw [hasNarFile, ← List.isSome_find?] at hends
  exact Option.isSome_iff_exists.1 hends

/-- What is joined to a NarInfo: nothing, if it has no link, and else the files that its links lead
to. -/
theorem mem_linkedFiles {file? : Option (NarFile Value)} :
    file? ∈ catalog.linkedFiles row ↔
      file? = none ∧ catalog.lacksFile row ∨
        ∃ link ∈ catalog.fileLinks, link.narInfo = row.id ∧
          catalog.narFileById? link.narFile = file? := by
  have hlinks : ∀ link, link ∈ catalog.fileLinks.filter (·.narInfo == row.id)
      ↔ link ∈ catalog.fileLinks ∧ link.narInfo = row.id := by simp
  have hlacks : catalog.lacksFile row ↔ catalog.fileLinks.filter (·.narInfo == row.id) = [] := by
    simp [lacksFile, List.filter_eq_nil_iff]
  simp only [← and_assoc, ← hlinks, hlacks, linkedFiles]
  cases catalog.fileLinks.filter (·.narInfo == row.id) with
  | nil => simp
  | cons link links => simp [eq_comm]

/-- Nothing, or a NAR file that waits to be cut into chunks, is joined to a NarInfo just when it has
no link, or is linked to such a file. -/
theorem exists_waiting_linkedFiles (h : catalog.WellFormed) :
    (∃ file? ∈ catalog.linkedFiles row, file?.all isWaiting) ↔
      catalog.lacksFile row ∨
        ∃ file ∈ catalog.narFiles, isWaiting file ∧ ⟨row.id, file.id⟩ ∈ catalog.fileLinks := by
  constructor
  · rintro ⟨file?, hmem, hall⟩
    rcases mem_linkedFiles.1 hmem with ⟨-, hlacks⟩ | ⟨⟨narInfo, narFile⟩, hlink, rfl, hfile⟩
    · exact .inl hlacks
    · -- the link leads to a file, as all links do
      obtain ⟨file, hfound⟩ := exists_narFileById? h hlink
      obtain ⟨hfileMem, hid⟩ := h.narFiles.find?_id_eq_some.1 hfound
      rw [← hfile, hfound] at hall
      exact .inr ⟨file, hfileMem, hall, by rwa [hid]⟩
  · rintro (hlacks | ⟨file, hfile, hwaits, hlink⟩)
    · exact ⟨none, mem_linkedFiles.2 (.inl ⟨rfl, hlacks⟩), rfl⟩
    · have hfound : catalog.narFileById? file.id = some file :=
        h.narFiles.find?_id_eq_some.2 ⟨hfile, rfl⟩
      exact ⟨some file, mem_linkedFiles.2 (.inr ⟨_, hlink, rfl, hfound⟩), hwaits⟩

/-- What the statement lists that joins the NAR files over the links, each hash once: the hashes of
the migrated NarInfos that have no link, or one to a NAR file that waits to be cut into chunks. -/
theorem hashesToChunk_eq (h : catalog.WellFormed) :
    catalog.hashesToChunk = catalog.hashesWhere fun row =>
      row.isMigrated && (catalog.lacksFile row
        || catalog.narFiles.any fun file => isWaiting file && catalog.isLinked row.id file.id) := by
  refine Text.eq_of_ascends (Text.distinct_ascends _) h.narInfos.hashesWhere_ascends
    fun hash => ?_
  have hjoined (row : NarInfo Value) :
      (∃ file? ∈ catalog.linkedFiles row, file?.all isWaiting) ↔
        catalog.lacksFile row || catalog.narFiles.any fun file =>
          isWaiting file && catalog.isLinked row.id file.id := by
    simp [exists_waiting_linkedFiles h, isLinked]
  simp only [mem_hashesWhere, Bool.and_eq_true, ← hjoined, hashesToChunk, Text.mem_distinct,
    List.mem_flatMap, List.mem_map, List.mem_filter]
  grind

end linkedFiles

end NarIndex.Catalog
