import NarIndex.Proofs.Catalog.WellFormed

/-!
# NarIndex.Proofs.Catalog.Lifecycle

What rows go through.  A NarInfo or a NAR file is as it came in, or its last change was also its
last use; chunks do not change (`Dated`).  A row that is there before and after a call, going by its
natural key, keeps what it had when it came in: its id and its time of creation, and the size of the
data that it stands for (`KeepsOrigins`).
-/

namespace NarIndex

open Catalog

/-! ## times -/

/-- A NarInfo has not been changed since it came in, or its last change was its last use. -/
def NarInfo.Dated (row : NarInfo Value) : Prop :=
  row.updatedAt = none ∧ row.lastAccessedAt = row.createdAt
    ∨ row.updatedAt = some row.lastAccessedAt

/-- A NAR file has not been changed since it came in, or its last change was its last use.  Notes on
chunks and on verification do not count as changes. -/
def NarFile.Dated (row : NarFile Value) : Prop :=
  row.updatedAt = none ∧ row.lastAccessedAt = row.createdAt
    ∨ row.updatedAt = some row.lastAccessedAt

section alterations

variable {f : NarInfo Value → NarInfo Value} {g : NarFile Value → NarFile Value}

/-- Altering a NarInfo leaves its times in agreement. -/
theorem NarInfo.Alteration.dated (h : NarInfo.Alteration f) (row : NarInfo Value)
    (hrow : row.Dated) : (f row).Dated := by
  cases h with
  | amended | touched => exact .inr rfl
  | resized => exact hrow

theorem NarFile.Alteration.dated (h : NarFile.Alteration g) (row : NarFile Value)
    (hrow : row.Dated) : (g row).Dated := by
  cases h with
  | touched => exact .inr rfl
  | chunked | chunkingStarted | verified => exact hrow

/-- What a NarInfo had when it came in. -/
def NarInfo.origin (row : NarInfo Value) : Int × Value :=
  (row.id, row.createdAt)

/-- What a NAR file had when it came in. -/
def NarFile.origin (row : NarFile Value) : Int × Value × Value :=
  (row.id, row.createdAt, row.fileSize)

/-- What a chunk had when it came in. -/
def Chunk.origin (row : Chunk Value) : Int × Value × Value :=
  (row.id, row.createdAt, row.size)

/-- What a setting had when it came in. -/
def Setting.origin (row : Setting Value) : Int × Value :=
  (row.id, row.createdAt)

/-- Altering a NarInfo leaves what it had when it came in. -/
theorem NarInfo.Alteration.origin_eq (h : NarInfo.Alteration f) (row : NarInfo Value) :
    (f row).origin = row.origin := by
  cases h <;> rfl

theorem NarFile.Alteration.origin_eq (h : NarFile.Alteration g) (row : NarFile Value) :
    (g row).origin = row.origin := by
  cases h <;> rfl

end alterations

namespace Catalog

/-- The times of all rows agree. -/
structure Dated (catalog : Catalog) : Prop where
  narInfos : ∀ row ∈ catalog.narInfos, row.Dated
  narFiles : ∀ row ∈ catalog.narFiles, row.Dated
  chunks : ∀ row ∈ catalog.chunks, row.updatedAt = none

namespace Dated

variable {catalog after : Catalog}

theorem empty : Dated {} :=
  ⟨by simp, by simp, by simp⟩

/-- After every edit the times agree if they did before. -/
theorem edit (hedit : Edit catalog after) (h : catalog.Dated) : after.Dated := by
  cases hedit with
  | addNarInfo =>
    exact { h with narInfos := forall_append_singleton h.narInfos (.inl ⟨rfl, rfl⟩) }
  | alterNarInfos p alters => exact { h with narInfos := forall_mapWhere h.narInfos alters.dated }
  | dropNarInfos p =>
    exact { h with narInfos := fun row hrow => h.narInfos row (List.mem_filter.1 hrow).1 }
  | addNarFile =>
    exact { h with narFiles := forall_append_singleton h.narFiles (.inl ⟨rfl, rfl⟩) }
  | alterNarFiles p alters => exact { h with narFiles := forall_mapWhere h.narFiles alters.dated }
  | dropNarFiles p =>
    exact { h with narFiles := fun row hrow => h.narFiles row (List.mem_filter.1 hrow).1 }
  | addChunk => exact { h with chunks := forall_append_singleton h.chunks rfl }
  | dropChunks p =>
    exact { h with chunks := fun row hrow => h.chunks row (List.mem_filter.1 hrow).1 }
  | addSetting | overwriteSettings | addReference | addSignature | linkFile | linkChunk =>
    exact ⟨h.narInfos, h.narFiles, h.chunks⟩

end Dated

/-! ## origins -/

/-- Of two tables, rows of the one and of the other that have the same natural key have the same
origin. -/
def Persist {α κ ω : Type} (key : α → κ) (origin : α → ω) (before after : List α) : Prop :=
  ∀ old ∈ before, ∀ new ∈ after, key new = key old → origin new = origin old

namespace Persist

variable {α κ ω : Type} {id : α → Int} {key : α → κ} {origin : α → ω} {rows after : List α}

/-- Rows stay as they are, or go. -/
theorem of_subset (h : Keyed id key rows) (hsub : after ⊆ rows) :
    Persist key origin rows after := by
  intro old hold new hnew hkey
  have hsame : new = old := List.inj_on_of_nodup_map h.keys_nodup (hsub hnew) hold hkey
  rw [hsame]

/-- A row with a new key comes in. -/
theorem append (h : Keyed id key rows) {row : α} (hkey : key row ∉ rows.map key) :
    Persist key origin rows (rows ++ [row]) := by
  intro old hold new hnew hsame
  rcases List.mem_append.1 hnew with hnew | hnew
  · exact of_subset h (List.Subset.refl rows) old hold new hnew hsame
  · rw [List.mem_singleton.1 hnew] at hsame
    exact absurd (List.mem_map.2 ⟨old, hold, hsame.symm⟩) hkey

/-- Rows change, but for their keys and origins. -/
theorem mapWhere (h : Keyed id key rows) (p : α → Bool) {f : α → α}
    (hkey : ∀ row, key (f row) = key row) (horigin : ∀ row, origin (f row) = origin row) :
    Persist key origin rows (mapWhere p f rows) := by
  have hchanged : ∀ row ∈ Catalog.mapWhere p f rows, ∃ former ∈ rows,
      key row = key former ∧ origin row = origin former := by
    intro row hrow
    obtain ⟨former, hformer, rfl⟩ := mem_mapWhere.1 hrow
    refine ⟨former, hformer, ?_⟩
    split
    · exact ⟨hkey former, horigin former⟩
    · exact ⟨rfl, rfl⟩
  intro old hold new hnew hsame
  obtain ⟨former, hformer, hkeys, horigins⟩ := hchanged new hnew
  rw [horigins]
  exact of_subset h (List.Subset.refl rows) old hold former hformer (hkeys.symm.trans hsame)

end Persist

/-- Every row that is there before and after, going by its natural key, has kept its id and its time
of creation; a NAR file has kept its file size as well, and a chunk its size. -/
structure KeepsOrigins (before after : Catalog) : Prop where
  narInfos : Persist NarInfo.hash NarInfo.origin before.narInfos after.narInfos
  narFiles : Persist NarFile.key NarFile.origin before.narFiles after.narFiles
  chunks : Persist Chunk.hash Chunk.origin before.chunks after.chunks
  settings : Persist Setting.key Setting.origin before.settings after.settings

namespace KeepsOrigins

variable {catalog after : Catalog} (h : catalog.WellFormed)
include h

theorem refl : KeepsOrigins catalog catalog where
  narInfos := .of_subset h.narInfos.toKeyed (List.Subset.refl _)
  narFiles := .of_subset h.narFiles.toKeyed (List.Subset.refl _)
  chunks := .of_subset h.chunks.toKeyed (List.Subset.refl _)
  settings := .of_subset h.settings.toKeyed (List.Subset.refl _)

/-- An edit changes no origins, and lets no row in whose key is taken. -/
theorem edit (hedit : Edit catalog after) : KeepsOrigins catalog after := by
  have hsame : KeepsOrigins catalog catalog := refl h
  cases hedit with
  | addNarInfo now absent =>
    have hkey := notMem_keys_of_find?_eq_none absent
    exact { hsame with narInfos := .append h.narInfos.toKeyed hkey }
  | alterNarInfos p alters =>
    have hrows := Persist.mapWhere h.narInfos.toKeyed p alters.hash_eq alters.origin_eq
    exact { hsame with narInfos := hrows }
  | dropNarInfos p =>
    exact { hsame with narInfos := .of_subset h.narInfos.toKeyed List.filter_sublist.subset }
  | addNarFile now absent =>
    have hkey := notMem_keys_of_find?_eq_none absent
    exact { hsame with narFiles := .append h.narFiles.toKeyed hkey }
  | alterNarFiles p alters =>
    have hrows := Persist.mapWhere h.narFiles.toKeyed p alters.key_eq alters.origin_eq
    exact { hsame with narFiles := hrows }
  | dropNarFiles p =>
    exact { hsame with narFiles := .of_subset h.narFiles.toKeyed List.filter_sublist.subset }
  | addChunk now absent =>
    have hkey := notMem_keys_of_find?_eq_none absent
    exact { hsame with chunks := .append h.chunks.toKeyed hkey }
  | dropChunks p =>
    exact { hsame with chunks := .of_subset h.chunks.toKeyed List.filter_sublist.subset }
  | addSetting value now absent =>
    have hkey := notMem_keys_of_find?_eq_none absent
    exact { hsame with settings := .append h.settings.toKeyed hkey }
  | overwriteSettings p value now =>
    exact { hsame with settings := .mapWhere h.settings.toKeyed p (fun _ => rfl) fun _ => rfl }
  | addReference | addSignature | linkFile | linkChunk =>
    exact ⟨hsame.narInfos, hsame.narFiles, hsame.chunks, hsame.settings⟩

/-- So does all that one call comes to. -/
theorem effect (heffect : Effect catalog after) : KeepsOrigins catalog after := by
  cases heffect with
  | edit hedit => exact edit h hedit
  | relations hrelates =>
    have hsame : KeepsOrigins catalog catalog := refl h
    constructor
    · rw [hrelates.narInfos]
      exact hsame.narInfos
    · rw [hrelates.narFiles]
      exact hsame.narFiles
    · rw [hrelates.chunks]
      exact hsame.chunks
    · rw [hrelates.settings]
      exact hsame.settings

end KeepsOrigins

end Catalog

end NarIndex
