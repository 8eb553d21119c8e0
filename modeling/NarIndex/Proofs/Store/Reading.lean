import Mathlib.Control.Monad.Basic
import NarIndex.Proofs.Catalog.Total
import NarIndex.Proofs.Store.Edits

/-!
# NarIndex.Proofs.Store.Reading

What reading comes to.  Where the tables are well formed, every row that a call finds or lists can
be read, and the sizes that it adds up are sizes; so a call that only reads fails if it finds no
row, or if a sum overflows, and in no other way (`Query.answer_failsAsRead`).  The tables of a store
are well formed whatever has happened to it (`Session.Reachable.wellFormed_and_reads`).
-/

namespace NarIndex.Store

open Catalog (Value Readable Keepable Sound SoundRows)

/-! ## how reading fails -/

/-- If a result is an error, then a row was not found, or a sum has overflown. -/
def FailsAsRead {α : Type} (result : Except StoreError α) : Prop :=
  ∀ error, result = .error error →
    (∃ entity key, error = .notFound entity key) ∨ error = .ofQuery .sumOverflowed

section failures

variable {α β : Type}

theorem failsAsRead_ok (value : α) : FailsAsRead (.ok value) := by
  intro error h
  contradiction

/-- Changing what was read fails in no other way. -/
theorem FailsAsRead.map {result : Except StoreError α} (h : FailsAsRead result) (f : α → β) :
    FailsAsRead (result.map f) :=
  fun error hmap => h error (map_eq_error hmap)

/-- Reading on fails in no other way. -/
theorem FailsAsRead.bind {result : Except StoreError α} {next : α → Except StoreError β}
    (h : FailsAsRead result) (hnext : ∀ value, result = .ok value → FailsAsRead (next value)) :
    FailsAsRead (result >>= next) := by
  intro error herror
  rcases bind_eq_error herror with hfirst | ⟨value, hvalue, hsecond⟩
  · exact h error hfirst
  · exact hnext value hvalue error hsecond

/-- A driver error that can only be an overflow. -/
theorem failsAsRead_mapError {result : Except DriverError α}
    (h : ∀ error, result = .error error → error = .sumOverflowed) :
    FailsAsRead (result.mapError .ofQuery) := by
  intro error herror
  obtain ⟨first, hfirst, rfl⟩ := mapError_eq_error herror
  rw [h first hfirst]
  exact .inr rfl

variable {ρ : Type → Type} [Readable ρ] [Keepable ρ]

/-- A sound row that is looked for is found or not. -/
theorem failsAsRead_found {entity key : String} {row? : Option (ρ Value)}
    (h : ∀ row ∈ row?, Sound row) : FailsAsRead (found entity key row?) := by
  intro error herror
  cases row? with
  | none => exact .inl ⟨entity, key, (Except.error.inj herror).symm⟩
  | some row =>
    obtain ⟨r, hr⟩ := (h row rfl).read
    rw [found, hr] at herror
    contradiction

/-- Sound rows that are asked for are listed. -/
theorem failsAsRead_listed {rows : List (ρ Value)} (h : ∀ row ∈ rows, Sound row) :
    FailsAsRead (listed rows) := by
  obtain ⟨rs, hrs⟩ := Catalog.readAll_of_sound h
  rw [listed, hrs]
  exact failsAsRead_ok rs

/-- A sum of sizes is a size, unless it overflows. -/
theorem failsAsRead_sized {what : String} {rows : List α} {column : α → Value}
    (h : ∀ row ∈ rows, ∃ size : Nat, column row = .integer size) :
    FailsAsRead (do
      sized what (← summed (do return (← Catalog.sum (rows.map column)).getD (.integer 0)))) := by
  obtain ⟨sizes, hsizes⟩ := Catalog.exists_keptSizes h
  rw [hsizes, Catalog.sum_sizes]
  split
  · exact failsAsRead_ok 0
  · split
    · intro error herror
      change sized what (sizes.sum : Nat) = .error error at herror
      rw [sized, if_pos (Int.natCast_nonneg _)] at herror
      contradiction
    · intro error herror
      exact .inr (Except.error.inj herror).symm

end failures

/-! ## tables of sound rows -/

section tables

variable {ρ : Type → Type} [Readable ρ] [Keepable ρ] {κ : Type} {id : ρ Value → Int}
  {key : ρ Value → κ} {rows : List (ρ Value)} (h : SoundRows id key rows)
include h

/-- A row of the table that is looked for is found or not. -/
theorem failsAsRead_find? {entity text : String} {p : ρ Value → Bool} :
    FailsAsRead (found entity text (rows.find? p)) :=
  failsAsRead_found fun row hrow => h.sound row (List.mem_of_find?_eq_some hrow)

/-- So is the first of those that meet a condition. -/
theorem failsAsRead_first {entity text : String} {p : ρ Value → Bool} :
    FailsAsRead (found entity text (Catalog.byId id (rows.filter p)).head?) :=
  failsAsRead_found fun row hrow =>
    h.sound row (Catalog.mem_of_mem_byId_filter (List.mem_of_head? hrow))

/-- Rows of the table can be listed. -/
theorem failsAsRead_part {part : List (ρ Value)} (hpart : part ⊆ rows) :
    FailsAsRead (listed part) :=
  failsAsRead_listed fun row hrow => h.sound row (hpart hrow)

end tables

/-! ## calls that only read -/

section calls

variable {catalog : Catalog} (h : catalog.WellFormed)
include h

/-- Looking for the chunk at a place fails only for want of it. -/
theorem chunkAt_failsAsRead (narFile index : Int) :
    FailsAsRead (Store.chunkAt catalog narFile index) := by
  refine failsAsRead_found fun row hrow => ?_
  obtain ⟨link, -, hrow⟩ := Option.bind_eq_some_iff.1 hrow
  exact h.chunks.sound row (List.mem_of_find?_eq_some hrow)

/-- The total of the NAR files fails only if it overflows. -/
theorem totalFileSize_failsAsRead : FailsAsRead (totalFileSize catalog) := by
  refine failsAsRead_sized fun row hrow => ?_
  obtain ⟨r, rfl, hr⟩ := h.narFiles.sound row (Catalog.mem_byId.1 hrow)
  exact ⟨r.fileSize.toNat, congrArg Value.integer (Int.toNat_of_nonneg hr.fileSize.1).symm⟩

theorem totalChunkSize_failsAsRead : FailsAsRead (totalChunkSize catalog) := by
  refine failsAsRead_sized fun row hrow => ?_
  obtain ⟨r, rfl, hr⟩ := h.chunks.sound row (Catalog.mem_byId.1 hrow)
  exact ⟨r.size.toNat, congrArg Value.integer (Int.toNat_of_nonneg hr.size.1).symm⟩

theorem leastUsedFiles_failsAsRead (budget : UInt64) :
    FailsAsRead (leastUsedFiles catalog budget) := by
  refine (failsAsRead_mapError fun _ => Catalog.affordable_eq_error).bind fun rows hrows => ?_
  refine failsAsRead_part h.narFiles fun row hrow => ?_
  exact List.mem_mergeSort.1 (Catalog.mem_of_affordable (mapError_eq_ok hrows) hrow)

/-- The NarInfos to evict are missing only if a sum overflows. -/
theorem leastUsedNarInfos_failsAsRead (budget : UInt64) :
    FailsAsRead (leastUsedNarInfos catalog budget) := by
  refine (failsAsRead_mapError fun error herror => ?_).bind fun rows hrows => ?_
  · rcases bind_eq_error herror with hsizes | ⟨sizes, -, hafforded⟩
    · obtain ⟨row, -, hsize⟩ := mapM_eq_error hsizes
      exact Catalog.linkedSize_eq_error hsize
    · exact Catalog.affordable_eq_error hafforded
  · refine failsAsRead_part h.narInfos fun row hrow => ?_
    obtain ⟨sizes, -, hafforded⟩ := bind_eq_ok (mapError_eq_ok hrows)
    exact List.mem_mergeSort.1 (Catalog.mem_of_affordable hafforded hrow)

/-- A call that only reads well-formed tables fails if a row is not found, or if a sum overflows,
and in no other way. -/
theorem Query.answer_failsAsRead (dialect : Sql.Dialect) (query : Query) :
    FailsAsRead (query.answer dialect catalog) := by
  cases query with
  | narInfoByHash | narInfoById => exact (failsAsRead_find? h.narInfos).map _
  | narFileByKey | narFileById => exact (failsAsRead_find? h.narFiles).map _
  | narFileByHash | narFileOfNarInfo => exact (failsAsRead_first h.narFiles).map _
  | chunkByHash | chunkById => exact (failsAsRead_find? h.chunks).map _
  | chunkAt narFile index => exact (chunkAt_failsAsRead h narFile index).map _
  | settingByKey | settingById => exact (failsAsRead_find? h.settings).map _
  | narInfosWithoutFile | orphanedNarInfos =>
    exact (failsAsRead_part h.narInfos fun _ => Catalog.mem_of_mem_byId_filter).map _
  | compressedNarInfos =>
    exact (failsAsRead_part h.narInfos fun _ hrow =>
      Catalog.mem_of_mem_byId_filter (Catalog.mem_of_mem_page hrow)).map _
  | orphanedFiles =>
    exact (failsAsRead_part h.narFiles fun _ => Catalog.mem_of_mem_byId_filter).map _
  | filesToChunk =>
    exact (failsAsRead_part h.narFiles fun _ hrow =>
      Catalog.mem_of_mem_byId_filter (Catalog.mem_of_mem_page hrow)).map _
  | oldCompressedFiles =>
    refine (failsAsRead_part h.narFiles fun row hrow => ?_).map _
    exact (List.mem_filter.1 (List.mem_mergeSort.1 (Catalog.mem_of_mem_page hrow))).1
  | orphanedChunks =>
    exact (failsAsRead_part h.chunks fun _ => Catalog.mem_of_mem_byId_filter).map _
  | chunksOfFile =>
    refine (failsAsRead_part h.chunks fun row hrow => ?_).map _
    obtain ⟨link, -, hfound⟩ := List.mem_filterMap.1 hrow
    exact List.mem_of_find?_eq_some hfound
  | totalFileSize => exact (totalFileSize_failsAsRead h).map _
  | totalChunkSize => exact (totalChunkSize_failsAsRead h).map _
  | leastUsedFiles budget => exact (leastUsedFiles_failsAsRead h budget).map _
  | leastUsedNarInfos budget => exact (leastUsedNarInfos_failsAsRead h budget).map _
  | _ => exact failsAsRead_ok _

end calls

/-- Whatever has happened to a store, its tables are well formed, those that calls on the handle see
and those that an open transaction began with.  A call that only reads fails if a row is not found,
or if a sum overflows, and in no other way. -/
theorem Session.Reachable.wellFormed_and_reads {session : Session} (h : session.Reachable) :
    session.catalog.WellFormed ∧ (∀ start ∈ session.saved, start.WellFormed) ∧
      ∀ now query, FailsAsRead (session.perform now (.read query)).1 :=
  ⟨h.wellFormed.catalog, h.wellFormed.saved, fun _ query =>
    query.answer_failsAsRead h.wellFormed.catalog session.dialect⟩

/-- Two NAR files whose sizes cannot be added up, the second one created and linked by a block. -/
theorem Session.wellFormed_and_reads_overflown :
    let session := (fresh .sqlite).after
      [.call .epoch (.write (.createNarFile ⟨⟨"a", "", ""⟩, 9223372036854775807, 0⟩)),
        .block (.ofCalls [(.epoch, .write (.createNarFile ⟨⟨"b", "xz", ""⟩, 1, 0⟩)),
          (.epoch, .write (.createNarInfo (placeholder "h"))),
          (.epoch, .write (.linkNarInfoToFile 1 2))])]
    session.Reachable ∧ session.catalog.WellFormed ∧
      (session.perform .epoch (.read .totalFileSize)).1 = .error (.ofQuery .sumOverflowed) := by
  intro session
  have h : session.Reachable := (Reachable.fresh .sqlite).after _
  have hoverflows :
      (session.perform .epoch (.read .totalFileSize)).1 = .error (.ofQuery .sumOverflowed) := by
    change (totalFileSize session.catalog).map Answer.count = _
    rw [totalFileSize, Catalog.totalFileSize, h.wellFormed.catalog.narFiles.byId_eq]
    decide +kernel
  exact ⟨h, h.wellFormed_and_reads.1, hoverflows⟩

end NarIndex.Store
