import Mathlib.Algebra.BigOperators.Ring.Finset
import NarIndex.Proofs.Catalog.Affordable
import NarIndex.Proofs.Catalog.Orphans
import NarIndex.Proofs.Catalog.WellFormed

/-!
# NarIndex.Proofs.Catalog.Eviction

The rows that may go first, where the tables are well formed.  NAR files are weighed by their sizes,
and NarInfos by the sizes of the files they are linked to (`weight`); so a file counts once for each
NarInfo that is linked to it (`sum_weight`).  Both selections are what a budget affords of the rows
in the order of their use (`leastUsedFiles_eq`, `leastUsedNarInfos_eq`).  Once some NarInfos have
gone, and the NAR files that only they were linked to, these files were not more than the weight of
the NarInfos (`freed_le`).
-/

namespace NarIndex.Catalog

/-- The sum of integers that are not negative: none of no integers, and else their sum if it can be
held. -/
theorem sum_integers {sizes : List Int} (nonneg : ∀ size ∈ sizes, 0 ≤ size) :
    sum (sizes.map .integer)
      = if sizes = [] then .ok none
        else if sizes.sum ≤ maxInteger then .ok (some (.integer sizes.sum))
        else .error .sumOverflowed := by
  obtain ⟨naturals, rfl⟩ : ∃ naturals : List Nat, sizes = naturals.map (↑) := by
    refine ⟨sizes.map Int.toNat, ?_⟩
    rw [List.map_map]
    exact (List.map_id' sizes).symm.trans
      (List.map_congr_left fun size hsize => (Int.toNat_of_nonneg (nonneg size hsize)).symm)
  have hkept : (naturals.map (Nat.cast : Nat → Int)).map Value.integer = keptSizes naturals :=
    List.map_map
  rw [hkept, sum_sizes, Nat.cast_list_sum]
  simp only [List.map_eq_nil_iff]

/-- The rows that meet a condition, added up, are all rows, of which the others count nothing. -/
theorem sum_map_filter {α : Type} (p : α → Bool) (size : α → Int) (rows : List α) :
    ((rows.filter p).map size).sum = (rows.map fun row => if p row then size row else 0).sum := by
  rw [List.sum_map_ite]
  simp

/-! ## how much a NarInfo weighs -/

/-- Whether a NarInfo is linked to a NAR file. -/
def links (fileLinks : List FileLink) (row : NarInfo Int) (file : NarFile Int) : Bool :=
  fileLinks.contains ⟨row.id, file.id⟩

/-- How much a NarInfo weighs when room is needed: as much as the NAR files it is linked to, or, if
it has no link, as much as it says of itself. -/
def weight (fileLinks : List FileLink) (files : List (NarFile Int)) (row : NarInfo Int) : Int :=
  if fileLinks.any (·.narInfo == row.id) then
    ((files.filter (links fileLinks row)).map (·.fileSize)).sum
  else row.details.fileSize.getD 0

section weight

variable {fileLinks : List FileLink} {files : List (NarFile Int)} {row : NarInfo Int}

/-- A NarInfo without links is linked to no NAR file. -/
theorem filter_links_eq_nil (h : fileLinks.any (·.narInfo == row.id) = false) :
    files.filter (links fileLinks row) = [] := by
  rw [List.filter_eq_nil_iff]
  intro file _ hlinked
  have hany : fileLinks.any (·.narInfo == row.id) :=
    List.any_eq_true.2 ⟨_, List.contains_iff_mem.1 hlinked, beq_self_eq_true row.id⟩
  rw [h] at hany
  contradiction

/-- What a NarInfo says of itself is a size. -/
theorem ownSize_nonneg (hrow : InRange row) : 0 ≤ row.details.fileSize.getD 0 := by
  cases hsize : row.details.fileSize with
  | none => exact Int.le_refl 0
  | some size => exact (hrow.details.fileSize size hsize).1

/-- No weight is below zero: sizes are not. -/
theorem weight_nonneg (hfiles : ∀ file ∈ files, InRange file) (hrow : InRange row) :
    0 ≤ weight fileLinks files row := by
  unfold weight
  split
  · exact sum_map_nonneg fun file hfile => (hfiles file (List.mem_of_mem_filter hfile)).fileSize.1
  · exact ownSize_nonneg hrow

/-- What NarInfos weigh together: each file counts once for each NarInfo that is linked to it, and
NarInfos without links count with what they say of themselves. -/
theorem sum_weight (fileLinks : List FileLink) (files : List (NarFile Int))
    (rows : List (NarInfo Int)) :
    (rows.map (weight fileLinks files)).sum
      = (files.map fun file => rows.countP (links fileLinks · file) * file.fileSize).sum
        + ((rows.filter fun row => !fileLinks.any (·.narInfo == row.id)).map
            (·.details.fileSize.getD 0)).sum := by
  induction rows with
  | nil => simp
  | cons row rows ih =>
    have hfiles : (files.map fun file =>
          ((row :: rows).countP (links fileLinks · file) : Int) * file.fileSize).sum
        = (files.map fun file => rows.countP (links fileLinks · file) * file.fileSize).sum
          + ((files.filter (links fileLinks row)).map (·.fileSize)).sum := by
      rw [sum_map_filter, ← List.sum_map_add]
      refine congrArg List.sum (List.map_congr_left fun file _ => ?_)
      rw [List.countP_cons]
      split
      · rw [Int.natCast_add, Int.add_mul]
        simp
      · simp
    rw [List.map_cons, List.sum_cons, ih, hfiles]
    cases h : fileLinks.any (·.narInfo == row.id) with
    | true =>
      rw [List.filter_cons_of_neg (by simp [h]), weight, h, if_pos rfl]
      omega
    | false =>
      rw [List.filter_cons_of_pos (by simp [h]), weight, h, if_neg Bool.false_ne_true,
        filter_links_eq_nil h, List.map_cons, List.sum_cons]
      simp only [List.map_nil, List.sum_nil]
      omega

end weight

/-! ## what may go first -/

/-- A NAR file is there that is read from the tables. -/
theorem hasNarFile_of_mem {catalog : Catalog} {files : List (NarFile Int)}
    (hfiles : catalog.narFiles = files.map kept) {file : NarFile Int} (hfile : file ∈ files) :
    catalog.hasNarFile file.id := by
  rw [hasNarFile, hfiles, List.any_map]
  exact List.any_eq_true.2 ⟨file, hfile, beq_self_eq_true file.id⟩

/-- The NAR files that may go first are what a budget affords of all of them. -/
theorem leastUsedFiles_eq {catalog : Catalog} {files : List (NarFile Int)}
    (hfiles : catalog.narFiles = files.map kept) (budget : Int) :
    let ordered := byUse (fun file : NarFile Int => .integer file.lastAccessedAt) (·.id) files
    catalog.leastUsedFiles budget
      = (affordable ((ordered.map (·.fileSize)).map .integer) budget ordered).map
          (List.map kept) := by
  intro ordered
  have hordered : byUse (·.lastAccessedAt) (·.id) catalog.narFiles = ordered.map kept := by
    rw [hfiles, byUse_map]
    rfl
  rw [leastUsedFiles, hordered, affordable_map, List.map_map, List.map_map]
  rfl

section wellFormed

variable {catalog : Catalog} (h : catalog.WellFormed) {files : List (NarFile Int)}
  (hfiles : catalog.narFiles = files.map kept) (hrange : ∀ file ∈ files, InRange file)
include h hfiles

/-- The NAR files that a NarInfo is linked to, as they are read. -/
theorem filesOf_kept (row : NarInfo Int) :
    catalog.filesOf row.id = (files.filter (links catalog.fileLinks row)).map kept := by
  rw [filesOf, (h.narFiles.filter _).byId_eq, hfiles, List.filter_map]
  rfl

/-- A NarInfo with a link is linked to a NAR file that is there. -/
theorem filter_links_ne_nil {row : NarInfo Int}
    (hlinked : catalog.fileLinks.any (·.narInfo == row.id)) :
    files.filter (links catalog.fileLinks row) ≠ [] := by
  obtain ⟨link, hlink, hid⟩ := List.any_eq_true.1 hlinked
  have hthere : catalog.hasNarFile link.narFile := (h.fileLinks.ends_exist link hlink).2
  rw [hasNarFile, hfiles, List.any_map] at hthere
  obtain ⟨file, hfile, hfileId⟩ := List.any_eq_true.1 hthere
  have hlinks : links catalog.fileLinks row file := by
    have heq : (⟨row.id, file.id⟩ : FileLink) = link := by
      rw [← eq_of_beq hid, show file.id = link.narFile from eq_of_beq hfileId]
    rwa [links, heq, List.contains_iff_mem]
  exact List.ne_nil_of_mem (List.mem_filter.2 ⟨hfile, hlinks⟩)

include hrange

/-- The statement weighs a NarInfo, unless it is linked to too much. -/
theorem linkedSize_kept {row : NarInfo Int} (hrow : InRange row) :
    catalog.linkedSize (kept row)
      = if weight catalog.fileLinks files row ≤ maxInteger then
          .ok (.integer (weight catalog.fileLinks files row))
        else .error .sumOverflowed := by
  have hsizes : (catalog.filesOf row.id).map (·.fileSize)
      = ((files.filter (links catalog.fileLinks row)).map (·.fileSize)).map .integer := by
    rw [filesOf_kept h hfiles, List.map_map, List.map_map]
    rfl
  have hnonneg : ∀ size ∈ (files.filter (links catalog.fileLinks row)).map (·.fileSize),
      0 ≤ size :=
    List.forall_mem_map.2 fun file hfile => (hrange file (List.mem_of_mem_filter hfile)).fileSize.1
  rw [linkedSize, show (kept row).id = row.id from rfl, hsizes, sum_integers hnonneg, weight]
  cases hlinked : catalog.fileLinks.any (·.narInfo == row.id) with
  | true =>
    have hne := filter_links_ne_nil h hfiles hlinked
    rw [if_neg (by simpa using hne), if_pos rfl]
    split
    · rfl
    · rfl
  | false =>
    have hown : (kept row).details.fileSize = row.details.fileSize.map .integer := rfl
    rw [filter_links_eq_nil hlinked, if_pos List.map_nil, if_neg Bool.false_ne_true, hown]
    cases hsize : row.details.fileSize with
    | none => rfl
    | some size => exact (if_pos (hrow.details.fileSize size hsize).2).symm

section rows

variable {rows : List (NarInfo Int)} (hrows : ∀ row ∈ rows, InRange row)
include hrows

/-- As long as all weights fit, they are what the store reads as sizes. -/
theorem mapM_linkedSize_of_le
    (fit : ∀ row ∈ rows, weight catalog.fileLinks files row ≤ maxInteger) :
    (rows.map kept).mapM catalog.linkedSize
      = .ok ((rows.map (weight catalog.fileLinks files)).map .integer) := by
  rw [List.mapM_map, List.map_map]
  refine mapM_eq_map fun row hrow => ?_
  rw [Function.comp_apply, linkedSize_kept h hfiles hrange (hrows row hrow), if_pos (fit row hrow)]
  rfl

/-- One NarInfo that is linked to too much is enough for a failure. -/
theorem mapM_linkedSize_of_lt {row : NarInfo Int} (hrow : row ∈ rows)
    (hlarge : maxInteger < weight catalog.fileLinks files row) :
    (rows.map kept).mapM catalog.linkedSize = .error .sumOverflowed := by
  cases hsizes : (rows.map kept).mapM catalog.linkedSize with
  | ok sizes =>
    obtain ⟨size, hsize⟩ := mapM_eq_ok hsizes (kept row) (List.mem_map_of_mem hrow)
    rw [linkedSize_kept h hfiles hrange (hrows row hrow), if_neg (Int.not_le.2 hlarge)] at hsize
    contradiction
  | error error =>
    obtain ⟨failing, -, hfails⟩ := mapM_eq_error hsizes
    rw [linkedSize_eq_error hfails]

end rows

/-- The NarInfos that may go first are what a budget affords of all of them. -/
theorem leastUsedNarInfos_eq {infos : List (NarInfo Int)}
    (hinfos : catalog.narInfos = infos.map kept) (hinfosRange : ∀ row ∈ infos, InRange row)
    (budget : Int) :
    let ordered := byUse (fun row : NarInfo Int => .integer row.lastAccessedAt) (·.id) infos
    catalog.leastUsedNarInfos budget
      = (affordable ((ordered.map (weight catalog.fileLinks files)).map .integer) budget
          ordered).map (List.map kept) := by
  intro ordered
  have hordered : byUse (·.lastAccessedAt) (·.id) catalog.narInfos = ordered.map kept := by
    rw [hinfos, byUse_map]
    rfl
  have hrows : ∀ row ∈ ordered, InRange row :=
    fun row hrow => hinfosRange row (List.mem_mergeSort.1 hrow)
  rw [leastUsedNarInfos, hordered]
  by_cases hfit : ∀ row ∈ ordered, weight catalog.fileLinks files row ≤ maxInteger
  · rw [mapM_linkedSize_of_le h hfiles hrange hrows hfit]
    exact affordable_map kept _ budget ordered
  · -- one of the rows weighs too much by itself, and then so do all of them together
    simp only [not_forall, Int.not_le] at hfit
    obtain ⟨row, hrow, hlarge⟩ := hfit
    have hnonneg : ∀ row ∈ ordered, 0 ≤ weight catalog.fileLinks files row :=
      fun row hrow => weight_nonneg hrange (hrows row hrow)
    have hle := List.single_le_sum (List.forall_mem_map.2 hnonneg) _ (List.mem_map_of_mem hrow)
    rw [mapM_linkedSize_of_lt h hfiles hrange hrows hrow hlarge,
      affordable_of_lt hnonneg (hlarge.trans_le hle)]
    rfl

end wellFormed

/-! ## what goes with NarInfos -/

/-- The tables after an eviction: some NarInfos go, and then the NAR files that no NarInfo is linked
to any more. -/
def evicted (ids : List Int) (catalog : Catalog) : Catalog :=
  Sweep.narFiles.run (catalog.withoutNarInfos fun row => ids.contains row.id)

section evicted

variable {catalog : Catalog} {ids : List Int}

theorem evicted_nil : catalog.evicted [] = Sweep.narFiles.run catalog :=
  congrArg Sweep.narFiles.run (Sweep.without_nil .narInfos catalog)

/-- NarInfos may go one after the other. -/
theorem evicted_cons (id : Int) :
    (catalog.withoutNarInfos (·.id == id)).evicted ids = catalog.evicted (id :: ids) := by
  rw [evicted, evicted, withoutNarInfos_withoutNarInfos]
  simp only [List.contains_cons]

/-- Eviction takes the NarInfos that it names, and no others. -/
theorem narInfos_evicted :
    (catalog.evicted ids).narInfos = catalog.narInfos.filter fun row => !ids.contains row.id := by
  rw [evicted, Sweep.run_narFiles]
  rfl

/-- NarInfos that stay keep their links. -/
theorem mem_fileLinks_evicted {link : FileLink} (hstays : link.narInfo ∉ ids) :
    link ∈ (catalog.evicted ids).fileLinks ↔ link ∈ catalog.fileLinks := by
  rw [evicted, Sweep.fileLinks_run, withoutNarInfos, List.mem_filter]
  refine and_iff_left (survives_of_forall fun row _ hid => ?_)
  rw [hid, Bool.eq_false_iff]
  exact fun hgone => hstays (List.contains_iff_mem.1 hgone)

/-- A NarInfo that stays keeps its links. -/
theorem isLinked_evicted {narInfo : Int} (hstays : narInfo ∉ ids) (narFile : Int) :
    (catalog.evicted ids).isLinked narInfo narFile = catalog.isLinked narInfo narFile := by
  rw [isLinked, isLinked, Bool.eq_iff_iff, List.contains_iff_mem, List.contains_iff_mem]
  exact mem_fileLinks_evicted hstays

/-- NAR files stay that are still linked to. -/
theorem narFiles_evicted :
    (catalog.evicted ids).narFiles
      = catalog.narFiles.filter fun file => !(catalog.evicted ids).lacksNarInfo file := by
  rw [evicted, Sweep.run_narFiles]
  rfl

/-- A NarInfo that stays is still linked to its NAR files. -/
theorem lacksNarInfo_evicted {link : FileLink} (hlink : link ∈ catalog.fileLinks)
    (hstays : link.narInfo ∉ ids) {file : NarFile Value} (hfile : file.id = link.narFile) :
    (catalog.evicted ids).lacksNarInfo file = false := by
  rw [lacksNarInfo, hfile]
  exact not_any_owner ((mem_fileLinks_evicted hstays).2 hlink)

/-- NarInfos that stay keep the NAR files that they are linked to. -/
theorem filesOf_evicted {narInfo : Int} (hstays : narInfo ∉ ids) :
    (catalog.evicted ids).filesOf narInfo = catalog.filesOf narInfo := by
  rw [filesOf, filesOf, narFiles_evicted, List.filter_filter]
  refine congrArg (byId _) (List.filter_congr fun file _ => ?_)
  rw [isLinked_evicted hstays]
  cases hlinked : catalog.isLinked narInfo file.id with
  | false => rfl
  | true => rw [lacksNarInfo_evicted (List.contains_iff_mem.1 hlinked) hstays rfl]; rfl

/-- A NAR file that goes, and that had a link, was linked to NarInfos that go. -/
theorem mem_ids_of_hasNarFile_evicted {link : FileLink} (hlink : link ∈ catalog.fileLinks)
    (hthere : catalog.hasNarFile link.narFile)
    (hgone : (catalog.evicted ids).hasNarFile link.narFile = false) : link.narInfo ∈ ids := by
  by_contra hstays
  obtain ⟨file, hfile, hid⟩ := List.any_eq_true.1 hthere
  have hkept : file ∈ (catalog.evicted ids).narFiles := by
    rw [narFiles_evicted, List.mem_filter, lacksNarInfo_evicted hlink hstays (eq_of_beq hid)]
    exact ⟨hfile, rfl⟩
  have hany : (catalog.evicted ids).hasNarFile link.narFile :=
    List.any_eq_true.2 ⟨file, hkept, hid⟩
  rw [hgone] at hany
  contradiction

/-- The NAR files that go with NarInfos, and that had a link, are not more than the NarInfos weigh
together: each of them counts for at least one of the NarInfos. -/
theorem freed_le {files : List (NarFile Int)} (hfiles : catalog.narFiles = files.map kept)
    (hrange : ∀ file ∈ files, InRange file) {chosen : List (NarInfo Int)}
    (hchosen : ∀ row ∈ chosen, InRange row) :
    ((files.filter fun file =>
        !(catalog.evicted (chosen.map (·.id))).hasNarFile file.id
          && catalog.fileLinks.any (·.narFile == file.id)).map (·.fileSize)).sum
      ≤ (chosen.map (weight catalog.fileLinks files)).sum := by
  have hcounted : ∀ file ∈ files,
      (if !(catalog.evicted (chosen.map (·.id))).hasNarFile file.id
          && catalog.fileLinks.any (·.narFile == file.id) then file.fileSize else 0)
        ≤ chosen.countP (links catalog.fileLinks · file) * file.fileSize := by
    intro file hfile
    have hsize : 0 ≤ file.fileSize := (hrange file hfile).fileSize.1
    split
    · next hfreed =>
      rw [Bool.and_eq_true, Bool.not_eq_true'] at hfreed
      obtain ⟨link, hlink, hid⟩ := List.any_eq_true.1 hfreed.2
      rw [← eq_of_beq hid] at hfreed
      have hthere : catalog.hasNarFile link.narFile := by
        rw [eq_of_beq hid]
        exact hasNarFile_of_mem hfiles hfile
      obtain ⟨row, hrow, hrowId⟩ :=
        List.mem_map.1 (mem_ids_of_hasNarFile_evicted hlink hthere hfreed.1)
      have hlinks : links catalog.fileLinks row file := by
        rw [links, List.contains_iff_mem, hrowId, ← eq_of_beq hid]
        exact hlink
      have hcount : 0 < chosen.countP (links catalog.fileLinks · file) :=
        List.countP_pos_iff.2 ⟨row, hrow, hlinks⟩
      exact le_mul_of_one_le_left hsize (by omega)
    · exact mul_nonneg (Int.natCast_nonneg _) hsize
  have hown : 0 ≤ ((chosen.filter fun row => !catalog.fileLinks.any (·.narInfo == row.id)).map
      (·.details.fileSize.getD 0)).sum :=
    sum_map_nonneg fun row hrow => ownSize_nonneg (hchosen row (List.mem_of_mem_filter hrow))
  rw [sum_map_filter, sum_weight]
  have hle := List.sum_le_sum hcounted
  omega

end evicted

end NarIndex.Catalog
