import NarIndex.Proofs.Store.Paging

/-!
# NarIndex.Proofs.Store.Queue

What waits to be cut into chunks.  The call that lists hashes joins NAR files to NarInfos over links
that may be missing, and lists the NarInfos that have no link, or one to a file that waits
(`Session.mem_hashesToChunk_iff`).  Three other calls tell of the files themselves, and all of them
describe one part of the table (`Session.Queue`), which a file leaves and comes back to without
moving the others (`Session.Reachable.chunking_queue`).
-/

namespace NarIndex

open Catalog (Value SoundRows kept InRange mapWhere maxInteger)

/-- A file with another number of chunks. -/
def NarFile.cutInto {ν : Type} (totalChunks : ν) (file : NarFile ν) : NarFile ν :=
  { file with totalChunks }

/-- The files that wait to be cut into chunks. -/
def NarFile.waiting (files : List (NarFile Int)) : List (NarFile Int) :=
  files.filter (·.totalChunks == 0)

namespace Store.Session

variable {session : Session}

/-! ## hashes -/

/-- A hash is listed if its NarInfo has a URL, and either no link leads from it, or one leads to a
NAR file that waits to be cut into chunks. -/
theorem mem_hashesToChunk_iff (h : session.catalog.WellFormed) {hash : String} :
    hash ∈ session.catalog.hashesToChunk ↔ session.HasAt hash fun row =>
      row.details.url ≠ none ∧
        ((∀ narFile, ⟨row.id, narFile⟩ ∉ session.catalog.fileLinks) ∨
          ∃ file, session.HasNarFile file ∧ file.totalChunks = 0 ∧
            ⟨row.id, file.id⟩ ∈ session.catalog.fileLinks) := by
  rw [Catalog.hashesToChunk_eq h]
  refine mem_hashesWhere_iff_hasAt h fun row => ?_
  have hmigrated : (kept row).isMigrated ↔ row.details.url ≠ none := Option.isSome_iff_ne_none
  have hlinked : (session.catalog.narFiles.any fun file =>
      Catalog.isWaiting file && session.catalog.isLinked (kept row).id file.id) ↔
        ∃ file, session.HasNarFile file ∧ file.totalChunks = 0 ∧
          ⟨row.id, file.id⟩ ∈ session.catalog.fileLinks := by
    rw [List.any_eq_true]
    constructor
    · rintro ⟨file, hfile, hboth⟩
      obtain ⟨f, rfl, hrange⟩ := h.narFiles.sound file hfile
      obtain ⟨hwaits, hlink⟩ := Bool.and_eq_true_iff.1 hboth
      exact ⟨f, (hasNarFile_iff h).2 ⟨hfile, hrange⟩, isWaiting_kept.1 hwaits,
        isLinked_iff.1 hlink⟩
    · rintro ⟨file, hfile, hwaits, hlink⟩
      exact ⟨kept file, ((hasNarFile_iff h).1 hfile).1,
        Bool.and_eq_true_iff.2 ⟨isWaiting_kept.2 hwaits, isLinked_iff.2 hlink⟩⟩
  rw [Bool.and_eq_true, Bool.or_eq_true, hmigrated, lacksFile_kept_iff, hlinked]

/-! ## files -/

/-- The calls that tell which NAR files wait to be cut into chunks agree.  `files` are all NAR files
by their ids. -/
structure Queue (session : Session) (files : List (NarFile Int)) : Prop where
  ascend : files.Pairwise fun a b => a.id < b.id
  mem : ∀ file, file ∈ files ↔ session.HasNarFile file
  countedAll : session.Answers .countNarFiles (.count files.length)
  counted : session.Answers .countFilesToChunk (.count (NarFile.waiting files).length)
  /-- The largest number that can be asked for is enough for all, where ids fit into a column. -/
  listed : session.catalog.IdsFit →
    session.Answers (.filesToChunk 18446744073709551615) (.narFiles (NarFile.waiting files))
  /-- What does not wait has been cut. -/
  others : (NarFile.waiting files).length = files.length - files.countP NarFile.isChunked
  flagged : session.Answers .anyChunkedFile
    (.flag ((NarFile.waiting files).length < files.length))

/-- Of files with numbers of chunks, those wait that have not been cut. -/
theorem length_waiting {files : List (NarFile Int)} (h : ∀ file ∈ files, InRange file) :
    (NarFile.waiting files).length + files.countP NarFile.isChunked = files.length := by
  have hcut : files.countP NarFile.isChunked = files.countP fun file => file.totalChunks ≠ 0 := by
    refine List.countP_congr fun file hfile => ?_
    have hnonneg : 0 ≤ file.totalChunks := (h file hfile).totalChunks.1
    simp only [NarFile.isChunked, decide_eq_true_eq]
    omega
  rw [hcut, NarFile.waiting, ← List.countP_eq_length_filter,
    List.length_eq_countP_add_countP (·.totalChunks == 0)]
  simp

/-- Files by their ids are determined by which ones they are. -/
theorem eq_of_ids_ascend {files others : List (NarFile Int)}
    (h : files.Pairwise fun a b => a.id < b.id) (hothers : others.Pairwise fun a b => a.id < b.id)
    (same : ∀ file, file ∈ files ↔ file ∈ others) : files = others := by
  have hirrefl : Std.Irrefl fun a b : NarFile Int => a.id < b.id := ⟨fun a => Int.lt_irrefl _⟩
  have hantisymm : Std.Antisymm fun a b : NarFile Int => a.id < b.id :=
    ⟨fun a b hab hba => absurd hba (Int.lt_asymm hab)⟩
  exact h.eq_of_mem_iff hothers same

section queue

variable (h : session.catalog.WellFormed)
include h

/-- The rows of the table are the queue with all other files. -/
theorem queue_of_kept {files : List (NarFile Int)}
    (hfiles : session.catalog.narFiles = files.map kept) (hrange : ∀ file ∈ files, InRange file) :
    session.Queue files := by
  have hascend : files.Pairwise fun a b => a.id < b.id := by
    have hids := h.narFiles.ids_ascend
    rwa [hfiles, List.map_map, List.pairwise_map] at hids
  have hmem (file : NarFile Int) : file ∈ files ↔ session.HasNarFile file := by
    rw [hasNarFile_iff h, Held, hfiles]
    constructor
    · intro hfile
      exact ⟨List.mem_map_of_mem hfile, hrange file hfile⟩
    · rintro ⟨hkept, hfileRange⟩
      obtain ⟨other, hother, heq⟩ := List.mem_map.1 hkept
      rwa [← eq_of_kept_eq (hrange other hother) hfileRange heq]
  have hwaiting : session.catalog.narFiles.countP Catalog.isWaiting
      = (NarFile.waiting files).length := by
    rw [hfiles, List.countP_map, NarFile.waiting, ← List.countP_eq_length_filter]
    exact List.countP_congr fun file _ => by simp [Catalog.isWaiting, kept]
  have hcut : session.catalog.narFiles.any Catalog.isCut = files.any NarFile.isChunked := by
    rw [hfiles, List.any_map]
    exact congrArg files.any (funext fun file => by simp [Catalog.isCut, NarFile.isChunked, kept])
  have hlength := length_waiting hrange
  refine ⟨hascend, hmem, ?_, ?_, fun fits => ?_, by omega, ?_⟩
  · exact answers_iff.2 (congrArg (Except.ok <| Answer.count ·) (by rw [hfiles, List.length_map]))
  · exact answers_iff.2 (congrArg (Except.ok <| Answer.count ·) hwaiting)
  · obtain ⟨listed, hlisted, hlistedAscend, hlistedMem⟩ := exists_filesToChunk h fits
    have hsame : listed = NarFile.waiting files := by
      refine eq_of_ids_ascend hlistedAscend (hascend.filter _) fun file => ?_
      rw [hlistedMem, NarFile.waiting, List.mem_filter, hmem, beq_iff_eq]
    have hall := (fits.length_le h).2
    rw [hfiles, List.length_map, maxInteger] at hall
    have hmax : (18446744073709551615 : UInt64).toNat = 18446744073709551615 := rfl
    rw [← hsame, ← List.take_of_length_le (l := listed) (i := 18446744073709551615) (by
      rw [hsame]
      omega), ← hmax]
    exact hlisted _
  · refine answers_iff.2 (congrArg (Except.ok <| Answer.flag ·) ?_)
    rw [hcut, Bool.eq_iff_iff, decide_eq_true_eq, List.any_eq_true, ← List.countP_pos_iff]
    omega

/-- There is a list of NAR files that all questions about the queue agree on. -/
theorem exists_queue : ∃ files, session.Queue files := by
  obtain ⟨files, hfiles, hrange, -⟩ := h.narFiles.exists_rows
  exact ⟨files, queue_of_kept h hfiles hrange⟩

end queue

/-! ## a file that is cut, or has to be cut again -/

/-- A call that sets the number of chunks of a NAR file succeeds if it writes that number, to the
row with the id, if there is one. -/
theorem perform_setTotalChunks {now : Time.Timestamp} {narFile : Int} {totalChunks : UInt64}
    {answer : Answer} {later : Session}
    (hok : session.perform now (.write (.setTotalChunks narFile totalChunks))
      = (.ok answer, later)) :
    isStorable totalChunks ∧ later = { session with
      catalog := { session.catalog with
        narFiles := mapWhere (·.id == narFile) (·.cutInto (.integer totalChunks.toNat))
          session.catalog.narFiles } } := by
  cases haccepted : isStorable totalChunks with
  | false =>
    obtain ⟨text, herror⟩ := countedWith_of_not_isStorable haccepted "total_chunks"
      (Catalog.setTotalChunks narFile)
    rw [perform, Operation.run, Change.run, herror] at hok
    cases hok
  | true =>
    rcases Bool.eq_false_or_eq_true session.contended with hlock | free
    · have hlocked := @countedWith_of_contended (session.context now) session.catalog hlock _
        haccepted "total_chunks" (Catalog.setTotalChunks narFile)
      rw [perform, Operation.run, Change.run, hlocked] at hok
      cases hok
    · have hchange (catalog : Catalog) :
          (Change.setTotalChunks narFile totalChunks).run (session.context now) catalog
            = counted (session.context now) (Catalog.setTotalChunks narFile totalChunks.toNat)
                catalog := by
        rw [Change.run, countedWith, storable_of_isStorable haccepted]
      rw [perform_counted hchange free rfl] at hok
      cases hok
      exact ⟨rfl, rfl⟩

section cutInto

variable {files : List (NarFile Int)} {narFile : Int} {totalChunks : UInt64}

/-- Such a call changes one file, at its place. -/
theorem Queue.cutInto {now : Time.Timestamp} {answer : Answer} {later : Session}
    (h : session.Queue files) (hformed : session.catalog.WellFormed)
    (hlater : later.catalog.WellFormed)
    (hok : session.perform now (.write (.setTotalChunks narFile totalChunks))
      = (.ok answer, later)) :
    later.Queue (mapWhere (·.id == narFile) (·.cutInto totalChunks.toNat) files) := by
  obtain ⟨rows, hrows, hrange, -⟩ := hformed.narFiles.exists_rows
  have hqueue := queue_of_kept hformed hrows hrange
  obtain rfl : files = rows := eq_of_ids_ascend h.ascend hqueue.ascend fun file =>
    (h.mem file).trans (hqueue.mem file).symm
  obtain ⟨accepted, rfl⟩ := perform_setTotalChunks hok
  refine queue_of_kept hlater ?_ (Catalog.forall_mapWhere hrange fun file hfile => ?_)
  · change mapWhere _ _ session.catalog.narFiles = _
    rw [hrows, mapWhere, mapWhere, List.map_map, List.map_map]
    refine List.map_congr_left fun file _ => ?_
    rw [Function.comp_apply, Function.comp_apply, apply_ite kept]
    rfl
  · exact { hfile with totalChunks := fits_of_storable (storable_of_isStorable accepted "") }

/-- The other files wait or not as they did. -/
theorem waiting_cutInto_others (totalChunks : Int) :
    (NarFile.waiting (mapWhere (·.id == narFile) (·.cutInto totalChunks) files)).filter
        (·.id ≠ narFile)
      = (NarFile.waiting files).filter (·.id ≠ narFile) := by
  induction files with
  | nil => rfl
  | cons file files ih => grind [NarFile.waiting, NarFile.cutInto, mapWhere]

/-- A file that has been cut does not wait any more. -/
theorem id_ne_of_mem_waiting_cutInto {totalChunks : Int} (cut : totalChunks ≠ 0)
    {file : NarFile Int}
    (hfile : file ∈ NarFile.waiting (mapWhere (·.id == narFile) (·.cutInto totalChunks) files)) :
    file.id ≠ narFile := by
  obtain ⟨hmem, hwaits⟩ := List.mem_filter.1 hfile
  obtain ⟨old, -, rfl⟩ := Catalog.mem_mapWhere.1 hmem
  grind [NarFile.cutInto]

/-- A file that has to be cut again waits. -/
theorem mem_waiting_cutInto {file : NarFile Int} (hfile : file ∈ files) (hid : file.id = narFile) :
    file.cutInto 0 ∈ NarFile.waiting (mapWhere (·.id == narFile) (·.cutInto 0) files) := by
  refine List.mem_filter.2 ⟨Catalog.mem_mapWhere.2 ⟨file, hfile, ?_⟩, rfl⟩
  rw [hid, beq_self_eq_true, if_pos rfl]

end cutInto

/-- What waits to be cut into chunks is told completely, and by all calls alike.  Take any store in
use.

* The hashes that wait are listed each once, in the order of their bytes, however many links there
  are.  They are those of the NarInfos with a URL that have no link, or one to a NAR file with no
  chunks.
* The files that wait are counted by one call and listed by another one; they are all files but for
  those that have been cut, and a third call tells whether there are such.
* A call that sets the number of chunks of a file, and succeeds, takes the file out of the queue, or
  puts it back if there are none; the others stay where they are. -/
theorem Reachable.chunking_queue (h : session.Reachable) :
    (∃ hashes, session.Answers .hashesToChunk (.texts hashes) ∧
      hashes.Pairwise (fun a b => Text.bytes a < Text.bytes b) ∧
      ∀ hash, hash ∈ hashes ↔ session.HasAt hash fun row =>
        row.details.url ≠ none ∧
          ((∀ narFile, ⟨row.id, narFile⟩ ∉ session.catalog.fileLinks) ∨
            ∃ file, session.HasNarFile file ∧ file.totalChunks = 0 ∧
              ⟨row.id, file.id⟩ ∈ session.catalog.fileLinks)) ∧
    ∃ files, session.Queue files ∧
      ∀ now narFile totalChunks answer later,
        session.perform now (.write (.setTotalChunks narFile totalChunks)) = (.ok answer, later) →
          ∃ after, later.Queue after ∧
            (NarFile.waiting after).filter (·.id ≠ narFile)
              = (NarFile.waiting files).filter (·.id ≠ narFile) ∧
            (0 < totalChunks → ∀ file ∈ NarFile.waiting after, file.id ≠ narFile) ∧
            (totalChunks = 0 → ∀ file, session.HasNarFile file → file.id = narFile →
              file.cutInto 0 ∈ NarFile.waiting after) := by
  have hformed := h.wellFormed.catalog
  refine ⟨⟨session.catalog.hashesToChunk, answers_iff.2 rfl, Text.distinct_ascends _,
    fun _ => mem_hashesToChunk_iff hformed⟩, ?_⟩
  obtain ⟨files, hqueue⟩ := exists_queue hformed
  refine ⟨files, hqueue, fun now narFile totalChunks answer later hok => ?_⟩
  have hlater : later.catalog.WellFormed := by
    have hnext := (h.handle (.call now (.write (.setTotalChunks narFile totalChunks)))).wellFormed
    rw [Session.handle, hok] at hnext
    exact hnext.catalog
  refine ⟨_, hqueue.cutInto hformed hlater hok, waiting_cutInto_others _, fun hpos file hfile => ?_,
    fun hzero file hfile hid => ?_⟩
  · have hnat : 0 < totalChunks.toNat := hpos
    exact id_ne_of_mem_waiting_cutInto (by omega) hfile
  · rw [hzero]
    exact mem_waiting_cutInto ((hqueue.mem file).2 hfile) hid

/-- A NarInfo with two files that wait, one of which is cut; one with a file that has been cut; one
without a file; and a placeholder. -/
theorem chunking_queue_shared :
    let session := (fresh .sqlite).after (Event.calls [
      (.epoch, .write (.createNarInfo { hash := "b", url := some "" })),
      (.epoch, .write (.createNarInfo { hash := "a", url := some "u" })),
      (.epoch, .write (.createNarInfo { hash := "c", url := some "u" })),
      (.epoch, .write (.createNarInfo (placeholder "d"))),
      (.epoch, .write (.createNarFile ⟨{ hash := "x" }, 1, 0⟩)),
      (.epoch, .write (.createNarFile ⟨{ hash := "y" }, 2, 0⟩)),
      (.epoch, .write (.createNarFile ⟨{ hash := "z" }, 3, 7⟩)),
      (.epoch, .write (.linkNarInfoToFile 1 1)), (.epoch, .write (.linkNarInfoToFile 1 2)),
      (.epoch, .write (.linkNarInfoToFile 3 3))])
    let cut := (session.perform .epoch (.write (.setTotalChunks 1 5))).2
    session.Reachable ∧
      (∃ hashes, session.Answers .hashesToChunk (.texts hashes) ∧ hashes.Nodup ∧
        "a" ∈ hashes ∧ "b" ∈ hashes) ∧
      (∃ files, session.Queue files ∧ (NarFile.waiting files).length = 2) ∧
      ∃ files, cut.Queue files ∧ (NarFile.waiting files).length = 1 ∧
        ∀ file ∈ NarFile.waiting files, file.id ≠ 1 := by
  intro session cut
  have h : session.Reachable := (Reachable.fresh .sqlite).after _
  obtain ⟨⟨hashes, hlisted, hascend, hmem⟩, files, hqueue, hcut⟩ := h.chunking_queue
  have hcounted : session.Answers .countFilesToChunk (.count 2) := answers_iff.2 (by decide +kernel)
  have hcut1 : cut.Answers .countFilesToChunk (.count 1) := answers_iff.2 (by decide +kernel)
  obtain ⟨after, hafter, -, hout, -⟩ := hcut .epoch 1 5 (.count 1) cut (by decide +kernel)
  have hx : session.HasNarFile (.fresh 1 { hash := "x" } 1 0 0) :=
    answers_iff.2 (by decide +kernel)
  have hb : session.HasAt "b" fun row => row.details.url ≠ none ∧
      ((∀ narFile, ⟨row.id, narFile⟩ ∉ session.catalog.fileLinks) ∨
        ∃ file, session.HasNarFile file ∧ file.totalChunks = 0 ∧
          ⟨row.id, file.id⟩ ∈ session.catalog.fileLinks) :=
    ⟨.fresh 1 "b" { url := some "" } 0, answers_iff.2 (by decide +kernel), nofun,
      .inr ⟨_, hx, rfl, by decide +kernel⟩⟩
  have hnone : ∀ link ∈ session.catalog.fileLinks, link.narInfo ≠ 2 := by decide +kernel
  have ha : session.HasAt "a" fun row => row.details.url ≠ none ∧
      ((∀ narFile, ⟨row.id, narFile⟩ ∉ session.catalog.fileLinks) ∨
        ∃ file, session.HasNarFile file ∧ file.totalChunks = 0 ∧
          ⟨row.id, file.id⟩ ∈ session.catalog.fileLinks) :=
    ⟨.fresh 2 "a" { url := some "u" } 0, answers_iff.2 (by decide +kernel), nofun,
      .inl fun narFile hlink => hnone _ hlink rfl⟩
  exact ⟨h, ⟨hashes, hlisted, Text.nodup_of_ascends hascend, (hmem "a").2 ha, (hmem "b").2 hb⟩,
    ⟨files, hqueue, Answer.count.inj (hqueue.counted.unique hcounted)⟩,
    after, hafter, Answer.count.inj (hafter.counted.unique hcut1), hout (by decide)⟩

end Store.Session

end NarIndex
