import NarIndex.Proofs.Catalog.Edit

/-!
# NarIndex.Proofs.Catalog.Orphans

Rows that nothing refers to, and the sweeps that delete them.  A sweep keeps every link between
NarInfos and NAR files (`Sweep.fileLinks_run`) and the chunks of every NAR file that has such a link
(`Sweep.chunksOf_run`).  Hence it leaves the orphans of the other tables alone; only where NAR files
go, chunks may lose their last place (`Sweep.orphans_run`).
-/

namespace NarIndex.Catalog

/-! ## rows that go -/

section rows

variable {α β : Type} {id : α → Int} {p q : α → Bool} {rows : List α}

/-- An owner survives a deletion if no row of its id meets the condition. -/
theorem survives_filter (id : α → Int) (p : α → Bool) (rows : List α) (owner : Int) :
    survives id (rows.filter p) owner = !rows.any fun row => p row && id row == owner := by
  rw [survives, List.any_filter]

/-- An id survives that none of the rows that go has. -/
theorem survives_of_forall {owner : Int} (h : ∀ row ∈ rows, id row = owner → p row = false) :
    survives id (rows.filter p) owner := by
  rw [survives_filter, Bool.not_eq_true', List.any_eq_false]
  intro row hrow hboth
  obtain ⟨hp, hid⟩ := Bool.and_eq_true_iff.1 hboth
  rw [h row hrow (eq_of_beq hid)] at hp
  contradiction

/-- What survives rows that go one after the other survives them together. -/
theorem survives_or (id : α → Int) (p q : α → Bool) (rows : List α) (owner : Int) :
    survives id (rows.filter fun row => p row || q row) owner
      = (survives id ((rows.filter (!p ·)).filter q) owner
          && survives id (rows.filter p) owner) := by
  simp only [survives_filter, List.any_filter]
  grind

/-- Relations stay as they are that none of the rows that go has. -/
theorem filter_survives {owner : β → Int} {links : List β}
    (h : ∀ link ∈ links, ∀ row ∈ rows, id row = owner link → p row = false) :
    links.filter (survives id (rows.filter p) <| owner ·) = links :=
  List.filter_eq_self.2 fun link hlink => survives_of_forall (h link hlink)

/-- Rows that stay are found as they were before. -/
theorem find?_filter_of_forall (h : ∀ row ∈ rows, q row → p row) :
    (rows.filter p).find? q = rows.find? q := by
  rw [← List.head?_filter, ← List.head?_filter, List.filter_filter]
  refine congrArg List.head? (List.filter_congr fun row hrow => ?_)
  cases hq : q row with
  | false => rfl
  | true => rw [h row hrow hq, Bool.and_true]

/-- A condition on ids is met by the rows that have the ids of those that meet it. -/
theorem contains_ids_filter (hp : ∀ a b, id a = id b → p a = p b) {row : α} (hrow : row ∈ rows) :
    ((rows.filter p).map id).contains (id row) = p row := by
  rw [Bool.eq_iff_iff, List.contains_iff_mem, List.mem_map]
  constructor
  · rintro ⟨other, hother, hid⟩
    rw [← hp other row hid]
    exact (List.mem_filter.1 hother).2
  · intro hrowp
    exact ⟨row, List.mem_filter.2 ⟨hrow, hrowp⟩, rfl⟩

/-- Who has a link does not lack one. -/
theorem not_any_owner {owner : β → Int} {links : List β} {link : β} (h : link ∈ links) :
    (!links.any (owner · == owner link)) = false := by
  have hany : links.any (owner · == owner link) :=
    List.any_eq_true.2 ⟨link, h, beq_self_eq_true (owner link)⟩
  rw [hany, Bool.not_true]

/-- Of the rows that stay none meets the condition. -/
theorem filter_filter_not (p : α → Bool) (rows : List α) : (rows.filter (!p ·)).filter p = [] := by
  rw [List.filter_filter, List.filter_eq_nil_iff]
  intro row _
  simp

end rows

section without

variable {catalog : Catalog}

/-- It only matters which of the NarInfos that are there go. -/
theorem withoutNarInfos_congr {p q : NarInfo Value → Bool}
    (h : ∀ row ∈ catalog.narInfos, p row = q row) :
    catalog.withoutNarInfos p = catalog.withoutNarInfos q := by
  have hnot : ∀ row ∈ catalog.narInfos, (!p row) = !q row := fun row hrow => by rw [h row hrow]
  rw [withoutNarInfos, withoutNarInfos, List.filter_congr h, List.filter_congr hnot]

theorem withoutNarFiles_congr {p q : NarFile Value → Bool}
    (h : ∀ row ∈ catalog.narFiles, p row = q row) :
    catalog.withoutNarFiles p = catalog.withoutNarFiles q := by
  have hnot : ∀ row ∈ catalog.narFiles, (!p row) = !q row := fun row hrow => by rw [h row hrow]
  rw [withoutNarFiles, withoutNarFiles, List.filter_congr h, List.filter_congr hnot]

theorem withoutChunks_congr {p q : Chunk Value → Bool}
    (h : ∀ row ∈ catalog.chunks, p row = q row) :
    catalog.withoutChunks p = catalog.withoutChunks q := by
  have hnot : ∀ row ∈ catalog.chunks, (!p row) = !q row := fun row hrow => by rw [h row hrow]
  rw [withoutChunks, withoutChunks, List.filter_congr h, List.filter_congr hnot]

/-- Two deletions are one of both conditions. -/
theorem withoutNarInfos_withoutNarInfos (p q : NarInfo Value → Bool) :
    (catalog.withoutNarInfos p).withoutNarInfos q
      = catalog.withoutNarInfos fun row => p row || q row := by
  have hstay : (catalog.narInfos.filter (!p ·)).filter (!q ·)
      = catalog.narInfos.filter fun row => !(p row || q row) := by
    rw [List.filter_filter]
    exact List.filter_congr fun row _ => by rw [Bool.not_or, Bool.and_comm]
  simp only [withoutNarInfos, hstay, survives_or]
  simp only [List.filter_filter]

end without

/-! ## sweeps -/

/-- A job that deletes the rows of one table that nothing refers to. -/
inductive Sweep where
  | narInfos
  | narFiles
  | chunks
  deriving DecidableEq, Repr

namespace Sweep

/-- The ids of the rows that the sweep deletes. -/
def orphans (catalog : Catalog) : Sweep → List Int
  | narInfos => (catalog.narInfos.filter catalog.lacksFile).map (·.id)
  | narFiles => (catalog.narFiles.filter catalog.lacksNarInfo).map (·.id)
  | chunks => (catalog.chunks.filter catalog.lacksPlace).map (·.id)

/-- The tables without the rows of the table that is swept which have some ids, and without all that
leads from or to them. -/
def without (ids : List Int) (catalog : Catalog) : Sweep → Catalog
  | narInfos => catalog.withoutNarInfos fun row => ids.contains row.id
  | narFiles => catalog.withoutNarFiles fun row => ids.contains row.id
  | chunks => catalog.withoutChunks fun row => ids.contains row.id

/-- The tables after the sweep. -/
def run (sweep : Sweep) (catalog : Catalog) : Catalog :=
  sweep.without (sweep.orphans catalog) catalog

/-- The statement that sweeps. -/
def statement : Sweep → Write Nat
  | narInfos => deleteOrphanedNarInfos
  | narFiles => deleteOrphanedFiles
  | chunks => deleteOrphanedChunks

variable (sweep : Sweep) (catalog : Catalog)

/-! ### what a sweep changes -/

theorem run_eq_withoutNarInfos :
    narInfos.run catalog = catalog.withoutNarInfos catalog.lacksFile :=
  withoutNarInfos_congr fun _ hrow =>
    contains_ids_filter (fun a b hid => by rw [lacksFile, lacksFile, hid]) hrow

theorem run_eq_withoutNarFiles :
    narFiles.run catalog = catalog.withoutNarFiles catalog.lacksNarInfo :=
  withoutNarFiles_congr fun _ hrow =>
    contains_ids_filter (fun a b hid => by rw [lacksNarInfo, lacksNarInfo, hid]) hrow

theorem run_eq_withoutChunks : chunks.run catalog = catalog.withoutChunks catalog.lacksPlace :=
  withoutChunks_congr fun _ hrow =>
    contains_ids_filter (fun a b hid => by rw [lacksPlace, lacksPlace, hid]) hrow

/-- The statement deletes the orphans, and yields how many there were. -/
theorem statement_eq :
    sweep.statement catalog = .ok ((sweep.orphans catalog).length, sweep.run catalog) := by
  cases sweep with
  | narInfos =>
    rw [run_eq_withoutNarInfos, orphans, List.length_map]
    rfl
  | narFiles =>
    rw [run_eq_withoutNarFiles, orphans, List.length_map]
    rfl
  | chunks =>
    rw [run_eq_withoutChunks, orphans, List.length_map]
    rfl

/-- Orphaned NarInfos go with their references and signatures. -/
theorem run_narInfos :
    narInfos.run catalog
      = let stays := survives (·.id) (catalog.narInfos.filter catalog.lacksFile)
        { catalog with
          narInfos := catalog.narInfos.filter (!catalog.lacksFile ·)
          references := catalog.references.filter (stays ·.narInfo)
          signatures := catalog.signatures.filter (stays ·.narInfo) } := by
  have hlinks : catalog.fileLinks.filter
      (survives (·.id) (catalog.narInfos.filter catalog.lacksFile) ·.narInfo)
        = catalog.fileLinks :=
    filter_survives fun link hlink row _ hid => by
      rw [lacksFile, hid]
      exact not_any_owner hlink
  rw [run_eq_withoutNarInfos, withoutNarInfos, hlinks]

/-- Orphaned NAR files go with their places for chunks. -/
theorem run_narFiles :
    narFiles.run catalog
      = let stays := survives (·.id) (catalog.narFiles.filter catalog.lacksNarInfo)
        { catalog with
          narFiles := catalog.narFiles.filter (!catalog.lacksNarInfo ·)
          chunkLinks := catalog.chunkLinks.filter (stays ·.narFile) } := by
  have hlinks : catalog.fileLinks.filter
      (survives (·.id) (catalog.narFiles.filter catalog.lacksNarInfo) ·.narFile)
        = catalog.fileLinks :=
    filter_survives fun link hlink row _ hid => by
      rw [lacksNarInfo, hid]
      exact not_any_owner hlink
  rw [run_eq_withoutNarFiles, withoutNarFiles, hlinks]

/-- Orphaned chunks have nothing else. -/
theorem run_chunks :
    chunks.run catalog
      = { catalog with chunks := catalog.chunks.filter (!catalog.lacksPlace ·) } := by
  have hlinks : catalog.chunkLinks.filter
      (survives (·.id) (catalog.chunks.filter catalog.lacksPlace) ·.chunk)
        = catalog.chunkLinks :=
    filter_survives fun link hlink row _ hid => by
      rw [lacksPlace, hid]
      exact not_any_owner hlink
  rw [run_eq_withoutChunks, withoutChunks, hlinks]

/-- Without any ids, nothing goes. -/
theorem without_nil : sweep.without [] catalog = catalog := by
  cases sweep <;> simp [without, withoutNarInfos, withoutNarFiles, withoutChunks, survives]

/-! ### what a sweep keeps -/

/-- A sweep keeps every link between NarInfos and NAR files. -/
@[simp] theorem fileLinks_run : (sweep.run catalog).fileLinks = catalog.fileLinks := by
  cases sweep with
  | narInfos => rw [run_narInfos]
  | narFiles => rw [run_narFiles]
  | chunks => rw [run_chunks]

/-- The places for chunks of a NAR file that has a link. -/
theorem placesOf_run {link : FileLink} (hlink : link ∈ catalog.fileLinks) :
    (sweep.run catalog).placesOf link.narFile = catalog.placesOf link.narFile := by
  cases sweep with
  | narInfos =>
    rw [run_narInfos]
    rfl
  | narFiles =>
    rw [run_narFiles, placesOf, placesOf, List.filter_filter]
    refine congrArg (List.mergeSort · _) (List.filter_congr fun place _ => ?_)
    cases hplace : place.narFile == link.narFile with
    | false => rfl
    | true =>
      rw [eq_of_beq hplace, Bool.true_and]
      refine survives_of_forall fun row _ hid => ?_
      rw [lacksNarInfo, hid]
      exact not_any_owner hlink
  | chunks =>
    rw [run_chunks]
    rfl

/-- A chunk that has a place. -/
theorem chunkById?_run {place : ChunkLink} (hplace : place ∈ catalog.chunkLinks) :
    (sweep.run catalog).chunkById? place.chunk = catalog.chunkById? place.chunk := by
  cases sweep with
  | narInfos =>
    rw [run_narInfos]
    rfl
  | narFiles =>
    rw [run_narFiles]
    rfl
  | chunks =>
    rw [run_chunks]
    refine find?_filter_of_forall fun row _ hid => ?_
    rw [lacksPlace, eq_of_beq hid, not_any_owner hplace, Bool.not_false]

/-- A sweep keeps the chunks of every NAR file that has a link. -/
theorem chunksOf_run {link : FileLink} (hlink : link ∈ catalog.fileLinks) :
    (sweep.run catalog).chunksOf link.narFile = catalog.chunksOf link.narFile := by
  rw [chunksOf, chunksOf, placesOf_run sweep catalog hlink]
  refine List.filterMap_congr fun place hplace => ?_
  exact chunkById?_run sweep catalog (List.mem_filter.1 (List.mem_mergeSort.1 hplace)).1

/-! ### sweeps one after the other -/

/-- A sweep leaves no orphans in its own table, and leaves those of the other tables alone; only
where NAR files go, chunks may be left behind. -/
theorem orphans_run {other : Sweep} (h : ¬(sweep = chunks ∧ other = narFiles)) :
    sweep.orphans (other.run catalog) = if sweep = other then [] else sweep.orphans catalog := by
  cases other with
  | narInfos =>
    rw [run_narInfos]
    cases sweep with
    | narInfos => exact congrArg (List.map _) (filter_filter_not catalog.lacksFile _)
    | narFiles | chunks => rfl
  | narFiles =>
    rw [run_narFiles]
    cases sweep with
    | narInfos => rfl
    | narFiles => exact congrArg (List.map _) (filter_filter_not catalog.lacksNarInfo _)
    | chunks => exact absurd ⟨rfl, rfl⟩ h
  | chunks =>
    rw [run_chunks]
    cases sweep with
    | narInfos | narFiles => rfl
    | chunks => exact congrArg (List.map _) (filter_filter_not catalog.lacksPlace _)

/-- A sweep leaves nothing for the same sweep. -/
theorem orphans_run_self : sweep.orphans (sweep.run catalog) = [] := by
  rw [orphans_run sweep catalog (by rintro ⟨rfl, ⟨⟩⟩), if_pos rfl]

/-- A sweep that is run again changes nothing. -/
theorem run_run : sweep.run (sweep.run catalog) = sweep.run catalog := by
  rw [run, orphans_run_self, without_nil]

/-- NarInfos and NAR files can be swept in either order. -/
theorem run_comm : narFiles.run (narInfos.run catalog) = narInfos.run (narFiles.run catalog) := by
  rw [run_narInfos, run_narFiles, run_narFiles, run_narInfos]
  rfl

/-- Once chunks have been swept after NarInfos and NAR files, no orphans are left. -/
theorem orphans_pass :
    sweep.orphans (chunks.run (narFiles.run (narInfos.run catalog))) = [] := by
  cases sweep <;> simp [orphans_run]

/-- The tables after several sweeps. -/
def runAll (sweeps : List Sweep) (catalog : Catalog) : Catalog :=
  sweeps.foldl (fun catalog sweep => sweep.run catalog) catalog

/-- No sweep takes a link between a NarInfo and a file. -/
theorem fileLinks_runAll (sweeps : List Sweep) :
    (runAll sweeps catalog).fileLinks = catalog.fileLinks := by
  induction sweeps generalizing catalog with
  | nil => rfl
  | cons sweep sweeps ih => exact (ih (sweep.run catalog)).trans (fileLinks_run sweep catalog)

/-- A NAR file that some NarInfo has keeps its chunks in all sweeps. -/
theorem chunksOf_runAll (sweeps : List Sweep) {link : FileLink} (hlink : link ∈ catalog.fileLinks) :
    (runAll sweeps catalog).chunksOf link.narFile = catalog.chunksOf link.narFile := by
  induction sweeps generalizing catalog with
  | nil => rfl
  | cons sweep sweeps ih =>
    have hkept : link ∈ (sweep.run catalog).fileLinks := by rwa [fileLinks_run]
    exact (ih (sweep.run catalog) hkept).trans (chunksOf_run sweep catalog hlink)

end Sweep

end NarIndex.Catalog
