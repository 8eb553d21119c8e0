import NarIndex.Proofs.Catalog.WellFormed

/-!
# NarIndex.Proofs.Catalog.NewRow

Rows that come in have no relations.  The next id of a table may have been that of a row that has
gone; but relations lead to rows that are there, so that none leads from or to the next id, whatever
row had it before.
-/

namespace NarIndex.Catalog

/-- No row has the next id. -/
theorem any_nextId {α : Type} (id : α → Int) (rows : List α) :
    rows.any (id · == nextId (rows.map id)) = false := by
  rw [List.any_eq_false]
  intro row hrow hid
  have hlt : id row < nextId (rows.map id) := lt_nextId (List.mem_map_of_mem hrow)
  rw [eq_of_beq hid] at hlt
  exact Int.lt_irrefl _ hlt

/-- A row that is not there has no relations. -/
theorem filter_owner_eq_nil {α : Type} {owner : α → Int} {links : List α} {has : Int → Bool}
    (ends : ∀ link ∈ links, has (owner link)) {id : Int} (absent : has id = false) :
    links.filter (owner · == id) = [] := by
  rw [List.filter_eq_nil_iff]
  intro link hlink hid
  have hthere := ends link hlink
  rw [eq_of_beq hid, absent] at hthere
  contradiction

namespace WellFormed

variable {catalog : Catalog} (h : catalog.WellFormed) {id : Int}
include h

/-! ## NarInfos -/

/-- A NarInfo that is not there has no references. -/
theorem references_of_absent (absent : catalog.hasNarInfo id = false) :
    textsOf catalog.references id = [] := by
  simp [textsOf, filter_owner_eq_nil h.references.ends_exist absent, Text.sorted]

theorem signatures_of_absent (absent : catalog.hasNarInfo id = false) :
    textsOf catalog.signatures id = [] := by
  simp [textsOf, filter_owner_eq_nil h.signatures.ends_exist absent, Text.sorted]

theorem filesOf_of_absent (absent : catalog.hasNarInfo id = false) : catalog.filesOf id = [] := by
  have hnone : ∀ file ∈ catalog.narFiles, ¬catalog.isLinked id file.id := by
    intro file _ hlinked
    have hends := h.fileLinks.ends_exist _ (List.contains_iff_mem.1 hlinked)
    exact Bool.false_ne_true (absent.symm.trans hends.1)
  simp [filesOf, List.filter_eq_nil_iff.2 hnone, byId]

/-! ## NAR files -/

/-- No NarInfo has a file that is not there. -/
theorem hashesOfFile_of_absent (absent : catalog.hasNarFile id = false) :
    catalog.hashesOfFile id = [] := by
  have hnone : ∀ row ∈ catalog.narInfos, ¬catalog.isLinked row.id id := by
    intro row _ hlinked
    have hends := h.fileLinks.ends_exist _ (List.contains_iff_mem.1 hlinked)
    exact Bool.false_ne_true (absent.symm.trans hends.2)
  simp [hashesOfFile, hashesWhere, List.filter_eq_nil_iff.2 hnone, Text.sorted]

theorem chunksOf_of_absent (absent : catalog.hasNarFile id = false) : catalog.chunksOf id = [] := by
  have hends : ∀ link ∈ catalog.chunkLinks, catalog.hasNarFile link.narFile :=
    fun link hlink => (h.chunkLinks.ends_exist link hlink).1
  simp [chunksOf, placesOf, filter_owner_eq_nil hends absent]

/-! ## chunks -/

/-- No NAR file has a chunk that is not there. -/
theorem lacksPlace_of_absent {row : Chunk Value} (absent : catalog.hasChunk row.id = false) :
    catalog.lacksPlace row := by
  have hends : ∀ link ∈ catalog.chunkLinks, catalog.hasChunk link.chunk :=
    fun link hlink => (h.chunkLinks.ends_exist link hlink).2
  have hnone := filter_owner_eq_nil hends absent
  rw [List.filter_eq_nil_iff] at hnone
  rw [lacksPlace, Bool.not_eq_true', List.any_eq_false]
  exact hnone

end WellFormed

end NarIndex.Catalog
