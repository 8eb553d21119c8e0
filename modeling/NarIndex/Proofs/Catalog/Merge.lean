import NarIndex.Proofs.Catalog.Sound
import NarIndex.Proofs.Catalog.Statement

/-!
# NarIndex.Proofs.Catalog.Merge

Merging, hash by hash.  Merging details into the NarInfo of a hash changes the rows of this hash as
merging changes a row (`narInfosOf_withMerged`), and leaves the rows of every other hash alone
(`narInfosOf_of_mergeNarInfo`).  A row that is kept is merged as the row that it is kept from.
-/

namespace NarIndex

open Catalog (Value Keepable kept mapWhere)

namespace NarInfo

/-- Merging into a row as it is kept is merging into the row. -/
theorem kept_merged (details : Details Int) (now : Int) (row : NarInfo Int) :
    (kept row).merged details.kept (.integer now) = kept (row.merged details now) := by
  have hfills : (kept row).isFilledBy details.kept = row.isFilledBy details := rfl
  rw [merged_eq, merged_eq, hfills]
  split <;> rfl

/-- Amending keeps sizes and times in their ranges. -/
theorem inRange_amended {details : Details Int} (fits : details.InRange) {row : NarInfo Int}
    (h : Keepable.InRange row) (now : Time.Timestamp) :
    Keepable.InRange (row.amended details now.micros) := by
  have hrow : row.InRange := h
  exact ⟨fits, hrow.createdAt, Catalog.inCalendar_of_mem_some now, Catalog.inCalendar_micros now⟩

/-- Merging keeps sizes and times in their ranges. -/
theorem inRange_merged {details : Details Int} (fits : details.InRange) {row : NarInfo Int}
    (h : Keepable.InRange row) (now : Time.Timestamp) :
    Keepable.InRange (row.merged details now.micros) := by
  rw [merged_eq]
  split
  · exact inRange_amended fits h now
  · exact h

end NarInfo

namespace Catalog

variable {catalog : Catalog} {hash : String}

/-- The NarInfos of a hash. -/
def narInfosOf (catalog : Catalog) (hash : String) : List (NarInfo Value) :=
  catalog.narInfos.filter (·.hash == hash)

/-- A look-up by hash finds the first of the NarInfos with it. -/
theorem head?_narInfosOf (catalog : Catalog) (hash : String) :
    (catalog.narInfosOf hash).head? = catalog.narInfoByHash? hash :=
  List.head?_filter

theorem narInfosOf_eq_nil : catalog.narInfosOf hash = [] ↔ catalog.narInfoByHash? hash = none := by
  rw [← head?_narInfosOf, List.head?_eq_none_iff]

/-- A NarInfo that comes in is the last one of its hash. -/
theorem narInfosOf_addNarInfo (catalog : Catalog) (hash : String) (details : NarInfo.Details Int)
    (now : Int) :
    (catalog.addNarInfo hash details now).2.narInfosOf hash
      = catalog.narInfosOf hash ++ [(catalog.addNarInfo hash details now).1] := by
  simp [narInfosOf, addNarInfo, NarInfo.fresh]

/-- Merging changes the NarInfos of the hash. -/
theorem narInfosOf_withMerged (catalog : Catalog) (hash : String) (details : NarInfo.Details Int)
    (now : Int) :
    (catalog.withMerged hash details now).narInfosOf hash
      = (catalog.narInfosOf hash).map (·.merged details.kept (.integer now)) :=
  filter_mapWhere_self fun row => by rw [NarInfo.hash_merged]

/-- Merging changes no NarInfos of another hash. -/
theorem narInfosOf_of_mergeNarInfo {other : String} (hne : other ≠ hash)
    {details : NarInfo.Details Int} {now : Int} {row : NarInfo Value} {after : Catalog}
    (h : mergeNarInfo other details now catalog = .ok (row, after)) :
    after.narInfosOf hash = catalog.narInfosOf hash := by
  cases hold : catalog.narInfoByHash? other with
  | none =>
    rw [mergeNarInfo_of_none hold] at h
    cases h
    simp [narInfosOf, NarInfo.fresh, hne]
  | some old =>
    rw [mergeNarInfo_of_some hold] at h
    cases h
    refine filter_mapWhere_of_disjoint (fun row => by rw [NarInfo.hash_merged]) fun row hrow => ?_
    rw [eq_of_beq hrow]
    exact beq_eq_false_iff_ne.2 hne.symm

/-- Merging a NAR file changes no NarInfos. -/
theorem narInfos_of_mergeNarFile {key : NarFile.Key} {fileSize totalChunks now : Int}
    {row : NarFile Value} {after : Catalog}
    (h : mergeNarFile key fileSize totalChunks now catalog = .ok (row, after)) :
    after.narInfos = catalog.narInfos := by
  cases hold : catalog.narFileByKey? key with
  | none =>
    rw [mergeNarFile_of_none hold] at h
    cases h
    rfl
  | some old =>
    rw [mergeNarFile_of_some hold] at h
    cases h
    rfl

/-- Merging a chunk changes no NarInfos. -/
theorem narInfos_of_mergeChunk {size now : Int} {row : Chunk Value} {after : Catalog}
    (h : mergeChunk hash size now catalog = .ok (row, after)) :
    after.narInfos = catalog.narInfos := by
  cases hold : catalog.chunkByHash? hash with
  | none =>
    rw [mergeChunk_of_none hold] at h
    cases h
    rfl
  | some old =>
    rw [mergeChunk_of_some hold] at h
    cases h
    rfl

end Catalog

end NarIndex
