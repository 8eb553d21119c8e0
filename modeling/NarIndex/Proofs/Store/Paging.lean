import NarIndex.Proofs.Catalog.Arrival
import NarIndex.Proofs.Catalog.Listing
import NarIndex.Proofs.Store.Migration

/-!
# NarIndex.Proofs.Store.Paging

Lists in pages.  Limits and offsets are taken down to the largest integer that a column can hold,
but no list is so long that this could be seen; so every page is the very slice of the list that was
asked for (`page_clamped`).  A loop that asks for one page after the other comes to an end, and has
then seen each row once (`Session.sweeps_of_slices`), for each of the lists that can be asked for in
pages (`Session.Reachable.pages_cover`).
-/

namespace NarIndex

open Catalog (Value Readable Keepable SoundRows kept InRange InOrderOfUse maxInteger)

/-- Ids are integers that a column can hold.  A backend keeps them in columns of 64 bits, and lets
no row in that has a larger one; here there is no end to them. -/
structure Catalog.IdsFit (catalog : Catalog) : Prop where
  narInfos : ∀ row ∈ catalog.narInfos, row.id ≤ maxInteger
  narFiles : ∀ row ∈ catalog.narFiles, row.id ≤ maxInteger

/-- There are no more rows than ids. -/
theorem Catalog.IdsFit.length_le {catalog : Catalog} (fits : catalog.IdsFit)
    (h : catalog.WellFormed) :
    (catalog.narInfos.length : Int) ≤ maxInteger ∧ (catalog.narFiles.length : Int) ≤ maxInteger :=
  ⟨h.narInfos.toKeyed.length_le (by decide) fits.narInfos,
    h.narFiles.toKeyed.length_le (by decide) fits.narFiles⟩

namespace Store

/-! ## slices -/

section slices

variable {α : Type} {rows : List α}

/-- No limit and no offset is so large that taking it down would change what a page has. -/
theorem page_clamped (h : (rows.length : Int) ≤ maxInteger) (limit offset : UInt64) :
    Catalog.page (clamped limit) (clamped offset) rows
      = (rows.drop offset.toNat).take limit.toNat := by
  have hmax : rows.length ≤ maxInteger.toNat := by omega
  have hdrop : rows.drop (clamped offset) = rows.drop offset.toNat := by
    by_cases hoffset : offset.toNat ≤ maxInteger.toNat
    · rw [clamped, Nat.min_eq_left hoffset]
    · rw [clamped, List.drop_eq_nil_of_le (by omega), List.drop_eq_nil_of_le (by omega)]
  rw [Catalog.page, hdrop, List.take_eq_take_iff, List.length_drop, clamped]
  omega

variable {ρ : Type → Type} [Readable ρ] [Keepable ρ] {κ : Type} {id : ρ Value → Int}
  {key : ρ Value → κ}

/-- A page of rows that are kept is read as that page of the rows. -/
theorem listed_page {rs : List (ρ Int)} (hrange : ∀ r ∈ rs, InRange r) (limit offset : Nat) :
    listed (Catalog.page limit offset (rs.map kept)) = .ok (Catalog.page limit offset rs) := by
  have hpage : ∀ r ∈ Catalog.page limit offset rs, InRange r := fun r hr =>
    hrange r (Catalog.mem_of_mem_page hr)
  rw [← listed_kept hpage, Catalog.page, Catalog.page, List.map_take, List.map_drop]

/-- Some rows of a table by their ids: every page of them is a slice. -/
theorem exists_listed_slices {rows : List (ρ Value)} (h : SoundRows id key rows)
    (hrows : (rows.length : Int) ≤ maxInteger) (p : ρ Value → Bool) : ∃ rs : List (ρ Int),
    (∀ r, r ∈ rs ↔ Held rows r ∧ p (kept r)) ∧
    rs.Pairwise (fun a b => id (kept a) < id (kept b)) ∧ (rs.length : Int) ≤ maxInteger ∧
    ∀ limit offset, listed
        (Catalog.page (clamped limit) (clamped offset) (Catalog.byId id (rows.filter p)))
      = .ok ((rs.drop offset.toNat).take limit.toNat) := by
  have hpart := h.filter p
  obtain ⟨rs, hrs, -, hheld⟩ := exists_held hpart
  have hlength : (rs.length : Int) ≤ maxInteger := by
    have hle := List.length_filter_le p rows
    rw [hrs, List.length_map] at hle
    omega
  refine ⟨rs, fun r => (hheld r).trans held_filter, ?_, hlength, fun limit offset => ?_⟩
  · have hascend := hpart.ids_ascend
    rwa [hrs, List.map_map, List.pairwise_map] at hascend
  · rw [hpart.byId_eq, hrs, listed_page fun r hr => ((hheld r).1 hr).2, page_clamped hlength]

end slices

namespace Session

variable {α : Type} {session : Session}

/-! ## sweeps -/

/-- What a loop comes to that asks for one page after the other, up to the first that is empty: the
pages before that.  `next` tells where a page begins, from where the last one did and what was in
it. -/
inductive Sweeps (session : Session) (query : UInt64 → Query) (answer : List α → Answer)
    (next : UInt64 → List α → UInt64) : UInt64 → List (List α) → Prop
  | done {offset : UInt64} (last : session.Answers (query offset) (answer [])) :
      Sweeps session query answer next offset []
  | more {offset : UInt64} {page : List α} {pages : List (List α)}
      (first : session.Answers (query offset) (answer page)) (nonempty : page ≠ [])
      (rest : Sweeps session query answer next (next offset page) pages) :
      Sweeps session query answer next offset (page :: pages)

/-- The next page begins where the last one would end if it was full. -/
def bySize (size offset : UInt64) (_ : List α) : UInt64 :=
  offset + size

/-- The next page begins behind what the last one had. -/
def byLength (offset : UInt64) (page : List α) : UInt64 :=
  offset + .ofNat page.length

/-- A list that can be asked for in pages, each of which is a slice of it.  Whatever the size of the
pages, a loop comes to an end, in one way, and puts them together to the list. -/
structure Paged (session : Session) (query : UInt64 → UInt64 → Query) (answer : List α → Answer)
    (whole : List α) : Prop where
  slices : ∀ limit offset, session.Answers (query limit offset)
    (answer ((whole.drop offset.toNat).take limit.toNat))
  sweeps : ∀ size, 1 ≤ size → ∀ next, next = bySize size ∨ next = byLength →
    ∃ pages, session.Sweeps (query size) answer next 0 pages ∧ pages.flatten = whole ∧
      ∀ other, session.Sweeps (query size) answer next 0 other → other = pages

section sweeps

variable {query : UInt64 → Query} {answer : List α → Answer} {next : UInt64 → List α → UInt64}
  {whole : List α} {size : UInt64}

/-- A loop sees the same pages each time. -/
theorem Sweeps.unique (hanswer : Function.Injective answer) {offset : UInt64}
    {pages other : List (List α)} (h : session.Sweeps query answer next offset pages)
    (hother : session.Sweeps query answer next offset other) : other = pages := by
  induction h generalizing other with
  | done last =>
    cases hother with
    | done => rfl
    | more first nonempty => exact absurd (hanswer (first.unique last)) nonempty
  | more first nonempty _ ih =>
    cases hother with
    | done last => exact absurd (hanswer (first.unique last)) nonempty
    | more first' _ rest =>
      obtain rfl := hanswer (first'.unique first)
      rw [ih rest]

/-- If every page is a slice, and each is followed by the one behind it, then a loop comes to an
end, and has then seen all that lies behind its offset. -/
theorem sweeps_of_slices (Valid : UInt64 → Prop) (hsize : 1 ≤ size)
    (slices : ∀ offset, session.Answers (query offset)
      (answer ((whole.drop offset.toNat).take size.toNat)))
    (follow : ∀ offset, Valid offset → offset.toNat < whole.length →
      let after := next offset ((whole.drop offset.toNat).take size.toNat)
      Valid after ∧ whole.drop after.toNat = (whole.drop offset.toNat).drop size.toNat)
    {offset : UInt64} (valid : Valid offset) :
    ∃ pages, session.Sweeps query answer next offset pages ∧
      pages.flatten = whole.drop offset.toNat := by
  -- what lies behind the offset gets shorter with every page
  induction hlength : (whole.drop offset.toNat).length using Nat.strong_induction_on
    generalizing offset with
  | h n ih =>
    have hpage := slices offset
    by_cases hend : whole.length ≤ offset.toNat
    · have hnil : whole.drop offset.toNat = [] := List.drop_eq_nil_of_le hend
      rw [hnil, List.take_nil] at hpage
      exact ⟨[], .done hpage, hnil.symm⟩
    · have hpos : 1 ≤ size.toNat := hsize
      obtain ⟨hvalid, hbehind⟩ := follow offset valid (by omega)
      have hshorter : ((whole.drop offset.toNat).drop size.toNat).length < n := by
        rw [List.length_drop]
        rw [List.length_drop] at hlength ⊢
        omega
      obtain ⟨pages, hpages, hflatten⟩ := ih _ hshorter hvalid (congrArg List.length hbehind)
      refine ⟨_ :: pages, .more hpage ?_ hpages, ?_⟩
      · rw [ne_eq, List.take_eq_nil_iff, List.drop_eq_nil_iff]
        omega
      · rw [List.flatten_cons, hflatten, hbehind, List.take_append_drop]

/-- Where pages are told by their size, they follow one another; for an offset does not overflow
before it is behind the list. -/
theorem follow_bySize (hfits : (whole.length : Int) ≤ maxInteger) (offset : UInt64)
    (valid : offset = 0 ∨ size ≤ offset) (hwithin : offset.toNat < whole.length)
    (page : List α) :
    (bySize size offset page = 0 ∨ size ≤ bySize size offset page) ∧
      whole.drop (bySize size offset page).toNat = (whole.drop offset.toNat).drop size.toNat := by
  have hmax : maxInteger = 9223372036854775807 := rfl
  have hlt := size.toNat_lt
  have hsum : (bySize size offset page).toNat = offset.toNat + size.toNat := by
    have hsmall : offset.toNat + size.toNat < 2 ^ 64 := by
      rcases valid with rfl | hle
      · rw [UInt64.toNat_zero, Nat.zero_add]
        exact hlt
      · rw [UInt64.le_iff_toNat_le] at hle
        omega
    rw [bySize, UInt64.toNat_add, Nat.mod_eq_of_lt hsmall]
  refine ⟨.inr ?_, by rw [hsum, List.drop_drop]⟩
  rw [UInt64.le_iff_toNat_le, hsum]
  omega

/-- Where pages are told by what they had, they follow one another as well; only the last may be
shorter than the others, and behind it there is nothing. -/
theorem follow_byLength (hfits : (whole.length : Int) ≤ maxInteger) (offset : UInt64)
    (hwithin : offset.toNat < whole.length) :
    whole.drop (byLength offset ((whole.drop offset.toNat).take size.toNat)).toNat
      = (whole.drop offset.toNat).drop size.toNat := by
  have hmax : maxInteger = 9223372036854775807 := rfl
  have hsum : (byLength offset ((whole.drop offset.toNat).take size.toNat)).toNat
      = offset.toNat + min size.toNat (whole.length - offset.toNat) := by
    rw [byLength, List.length_take, List.length_drop, UInt64.toNat_add, UInt64.toNat_ofNat']
    omega
  rw [hsum, List.drop_drop]
  rcases Nat.le_total size.toNat (whole.length - offset.toNat) with hfull | hlast
  · rw [Nat.min_eq_left hfull]
  · rw [Nat.min_eq_right hlast, List.drop_eq_nil_of_le (by omega),
      List.drop_eq_nil_of_le (by omega)]

/-- A list all of whose slices can be asked for is seen by every loop. -/
theorem paged_of_slices {query : UInt64 → UInt64 → Query} (hanswer : Function.Injective answer)
    (hfits : (whole.length : Int) ≤ maxInteger)
    (slices : ∀ limit offset, session.Answers (query limit offset)
      (answer ((whole.drop offset.toNat).take limit.toNat))) :
    session.Paged query answer whole where
  slices := slices
  sweeps size hsize next hnext := by
    have hpages : ∃ pages, session.Sweeps (query size) answer next 0 pages ∧
        pages.flatten = whole.drop (0 : UInt64).toNat := by
      rcases hnext with rfl | rfl
      · exact sweeps_of_slices _ hsize (slices size)
          (fun offset valid hwithin => follow_bySize hfits offset valid hwithin _) (.inl rfl)
      · exact sweeps_of_slices (fun _ => True) hsize (slices size)
          (fun offset _ hwithin => ⟨trivial, follow_byLength hfits offset hwithin⟩) trivial
    obtain ⟨pages, hsweeps, hflatten⟩ := hpages
    exact ⟨pages, hsweeps, hflatten, fun other hother => hsweeps.unique hanswer hother⟩

end sweeps

/-! ## lists that can be asked for in pages -/

section lists

variable (h : session.catalog.WellFormed) (fits : session.catalog.IdsFit)
include h fits

theorem paged_migratedHashes :
    session.Paged .migratedHashesPage .texts session.catalog.migratedHashes := by
  have hfits : (session.catalog.migratedHashes.length : Int) ≤ maxInteger := by
    have hrows := (fits.length_le h).1
    have hle := List.length_filter_le (·.isMigrated) session.catalog.narInfos
    rw [Catalog.migratedHashes, Catalog.hashesWhere, Text.sorted, List.length_mergeSort,
      List.length_map]
    omega
  refine paged_of_slices (fun _ _ => Answer.texts.inj) hfits fun limit offset => ?_
  rw [answers_iff, ← page_clamped hfits]
  rfl

/-- The NarInfos with a compression are listed in pages, by their ids. -/
theorem exists_compressedNarInfos : ∃ infos,
    session.Paged .compressedNarInfos .narInfos infos ∧
    infos.Pairwise (fun a b => a.id < b.id) ∧
    ∀ row, row ∈ infos ↔ session.HasNarInfo row ∧
      ∃ text, row.details.compression = some text ∧ Compression.isCompressed text := by
  obtain ⟨infos, hmem, hascend, hfits, hlisted⟩ :=
    exists_listed_slices h.narInfos (fits.length_le h).1 fun row =>
      Catalog.isNoneOf Compression.uncompressed row.details.compression
  refine ⟨infos, ?_, hascend, fun row => ?_⟩
  · refine paged_of_slices (fun _ _ => Answer.narInfos.inj) hfits fun limit offset => ?_
    exact answers_iff.2 (congrArg (Except.map Answer.narInfos) (hlisted limit offset))
  · rw [hmem, hasNarInfo_iff h, Catalog.isNoneOf_uncompressed]
    rfl

omit fits in
/-- The compressed NAR files that came in before a time, as they are read.  They are put in order
by the times at which they came in, and so they are not in the order of the table. -/
theorem exists_compressedFilesBefore (micros : Int) : ∃ files : List (NarFile Int),
    session.catalog.compressedFilesBefore micros = files.map kept ∧
    files.Pairwise
      (fun a b => a.createdAt < b.createdAt ∨ a.createdAt = b.createdAt ∧ a.id < b.id) ∧
    ∀ file, file ∈ files ↔ Held session.catalog.narFiles file ∧
      Compression.isCompressed file.key.compression ∧ file.createdAt < micros := by
  have hpart := h.narFiles.filter fun row =>
    Catalog.isNoneOf Compression.uncompressed (some row.key.compression)
      && row.createdAt.lt (.integer micros)
  obtain ⟨files, hfiles, -, hheld⟩ := exists_held hpart
  have hids : (files.map (·.id)).Nodup := by
    have hnodup := hpart.ids_nodup
    rwa [hfiles, List.map_map] at hnodup
  have horder : InOrderOfUse (·.createdAt) (·.id) files _ := Catalog.inOrderOfUse_byUse hids
  refine ⟨_, ?_, horder.ascend, fun file => ?_⟩
  · rw [Catalog.compressedFilesBefore_eq, hfiles, Catalog.byUse_map]
    rfl
  · rw [horder.perm.mem_iff, hheld, held_filter, Bool.and_eq_true, Catalog.isNoneOf_uncompressed]
    simp [kept]

/-- The compressed NAR files from before a time are listed in pages, the oldest first. -/
theorem exists_oldCompressedFiles (before : Time.Timestamp) : ∃ files,
    session.Paged (.oldCompressedFiles before) .narFiles files ∧
    files.Pairwise
      (fun a b => a.createdAt < b.createdAt ∨ a.createdAt = b.createdAt ∧ a.id < b.id) ∧
    ∀ file, file ∈ files ↔ session.HasNarFile file ∧
      Compression.isCompressed file.key.compression ∧ file.createdAt < before.micros := by
  obtain ⟨files, hfiles, hascend, hmem⟩ := exists_compressedFilesBefore h before.micros
  have hfits : (files.length : Int) ≤ maxInteger := by
    have hrows := (fits.length_le h).2
    have hle : (session.catalog.compressedFilesBefore before.micros).length
        ≤ session.catalog.narFiles.length := by
      rw [Catalog.compressedFilesBefore, List.length_mergeSort]
      exact List.length_filter_le _ _
    rw [hfiles, List.length_map] at hle
    omega
  refine ⟨files, ?_, hascend, fun file => ?_⟩
  · refine paged_of_slices (fun _ _ => Answer.narFiles.inj) hfits fun limit offset => ?_
    have hlisted := listed_page (fun file hfile => ((hmem file).1 hfile).1.2) (clamped limit)
      (clamped offset)
    rw [← hfiles, page_clamped hfits] at hlisted
    exact answers_iff.2 (congrArg (Except.map Answer.narFiles) hlisted)
  · rw [hmem, hasNarFile_iff h]

/-- The NAR files that wait are listed by their ids, up to a limit. -/
theorem exists_filesToChunk : ∃ files : List (NarFile Int),
    (∀ limit, session.Answers (.filesToChunk limit) (.narFiles (files.take limit.toNat))) ∧
    files.Pairwise (fun a b => a.id < b.id) ∧
    ∀ file, file ∈ files ↔ session.HasNarFile file ∧ file.totalChunks = 0 := by
  obtain ⟨files, hmem, hascend, -, hlisted⟩ :=
    exists_listed_slices h.narFiles (fits.length_le h).2 Catalog.isWaiting
  refine ⟨files, fun limit => ?_, hascend, fun file => ?_⟩
  · exact answers_iff.2 (congrArg (Except.map Answer.narFiles) (hlisted limit 0))
  · rw [hmem, hasNarFile_iff h, isWaiting_kept]

end lists

/-- Lists in pages lose nothing and repeat nothing.  Take any store in use, with ids that a column
can hold.  The hashes of the migrated NarInfos, the NarInfos whose compression names a codec, by
their ids, and the compressed NAR files that came in before a time, the oldest first, are each one
list, in which no row stands twice.  Whatever limit and offset are asked for, up to the largest
integer of 64 bits, the page is the slice of the list; and a loop that asks for pages of any size
sees the list once and ends, whether it goes on by the size of a page or by what a page had.  The
NAR files that wait to be cut into chunks are listed by their ids as well, as many as are asked. -/
theorem Reachable.pages_cover (h : session.Reachable) (fits : session.catalog.IdsFit) :
    (∃ hashes, session.Answers .migratedHashes (.texts hashes) ∧
      session.Paged .migratedHashesPage .texts hashes ∧
      hashes.Pairwise (fun a b => Text.bytes a < Text.bytes b) ∧
      ∀ hash, hash ∈ hashes ↔ session.HasAt hash (·.details.url ≠ none)) ∧
    (∃ infos, session.Paged .compressedNarInfos .narInfos infos ∧
      infos.Pairwise (fun a b => a.id < b.id) ∧
      ∀ row, row ∈ infos ↔ session.HasNarInfo row ∧
        ∃ text, row.details.compression = some text ∧ Compression.isCompressed text) ∧
    (∀ before, ∃ files, session.Paged (.oldCompressedFiles before) .narFiles files ∧
      files.Pairwise
        (fun a b => a.createdAt < b.createdAt ∨ a.createdAt = b.createdAt ∧ a.id < b.id) ∧
      ∀ file, file ∈ files ↔ session.HasNarFile file ∧
        Compression.isCompressed file.key.compression ∧ file.createdAt < before.micros) ∧
    ∃ files : List (NarFile Int),
      (∀ limit, session.Answers (.filesToChunk limit) (.narFiles (files.take limit.toNat))) ∧
      files.Pairwise (fun a b => a.id < b.id) ∧
      ∀ file, file ∈ files ↔ session.HasNarFile file ∧ file.totalChunks = 0 := by
  have hformed := h.wellFormed.catalog
  refine ⟨⟨session.catalog.migratedHashes, answers_iff.2 rfl, paged_migratedHashes hformed fits,
    hformed.narInfos.hashesWhere_ascends, fun _ => mem_migratedHashes_iff hformed⟩, ?_⟩
  exact ⟨exists_compressedNarInfos hformed fits, exists_oldCompressedFiles hformed fits,
    exists_filesToChunk hformed fits⟩

/-- Three of six NarInfos name a codec, and are seen in pages of two; case counts, and an empty
text is not a codec. -/
theorem pages_cover_codecs :
    let create (hash : String) (compression : Option String) : Time.Timestamp × Operation :=
      (.epoch, .write (.createNarInfo { hash, compression }))
    let session := (fresh .sqlite).after (Event.calls [create "a" (some "xz"),
      create "b" (some ""), create "c" (some "None"), create "d" none, create "e" (some "none"),
      create "f" (some "zstd")])
    let row (id : Int) (hash text : String) : NarInfo Int :=
      .fresh id hash { compression := some text } 0
    session.Reachable ∧ session.catalog.IdsFit ∧
      session.Paged .compressedNarInfos .narInfos
        [row 1 "a" "xz", row 3 "c" "None", row 6 "f" "zstd"] ∧
      session.Sweeps (.compressedNarInfos 2) .narInfos byLength 0
        [[row 1 "a" "xz", row 3 "c" "None"], [row 6 "f" "zstd"]] := by
  intro create session row
  have h : session.Reachable := (Reachable.fresh .sqlite).after _
  have fits : session.catalog.IdsFit := ⟨by decide +kernel, by decide +kernel⟩
  obtain ⟨-, ⟨infos, hpaged, -⟩, -⟩ := h.pages_cover fits
  obtain ⟨pages, -, hflatten, hunique⟩ := hpaged.sweeps 2 (by decide) byLength (.inr rfl)
  have hbyId := (h.wellFormed.catalog.narInfos.filter fun row =>
    Catalog.isNoneOf Compression.uncompressed row.details.compression).byId_eq
  have hanswers (limit offset : UInt64) (rows : List (NarInfo Int))
      (hrows : listed (Catalog.page (clamped limit) (clamped offset)
        (session.catalog.narInfos.filter fun row =>
          Catalog.isNoneOf Compression.uncompressed row.details.compression)) = .ok rows) :
      session.Answers (.compressedNarInfos limit offset) (.narInfos rows) := by
    rw [← hbyId] at hrows
    exact answers_iff.2 (congrArg (Except.map Answer.narInfos) hrows)
  have hsweeps : session.Sweeps (.compressedNarInfos 2) .narInfos byLength 0
      [[row 1 "a" "xz", row 3 "c" "None"], [row 6 "f" "zstd"]] :=
    .more (hanswers 2 0 _ (by decide +kernel)) nofun
      (.more (hanswers 2 2 _ (by decide +kernel)) nofun
        (.done (hanswers 2 3 _ (by decide +kernel))))
  rw [← hunique _ hsweeps] at hflatten
  rw [← hflatten] at hpaged
  exact ⟨h, fits, hpaged, hsweeps⟩

end Session

end Store

end NarIndex
