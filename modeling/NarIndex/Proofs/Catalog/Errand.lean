import NarIndex.Proofs.Catalog.Orphans
import NarIndex.Proofs.Catalog.WellFormed

/-!
# NarIndex.Proofs.Catalog.Errand

Statements that mean one row.  They name it by its natural key or by its id, and either it goes, or
some of its columns change (`Errand`).  Keys and ids tell rows apart, so that at most one row has
the name (`Keyed.none_or_singled`).  If there is none, nothing changes; if there is one, it goes
with all that leads from or to it, or it is replaced at its place, and all else is as it was
(`Errand.statement_of_misses`, `Errand.statement_of_hits`).
-/

namespace NarIndex.Catalog

/-! ## the one row -/

/-- The one row of a table that meets a condition, with the rows before it and behind it. -/
structure Singled {α : Type} (p : α → Bool) (rows front : List α) (row : α) (back : List α) :
    Prop where
  rows_eq : rows = front ++ row :: back
  meets : p row
  others : ∀ other ∈ front ++ back, p other = false

namespace Singled

variable {α : Type} {p : α → Bool} {rows front back : List α} {row : α}

theorem others_front (h : Singled p rows front row back) : ∀ other ∈ front, p other = false :=
  fun other hother => h.others other (List.mem_append_left back hother)

theorem others_back (h : Singled p rows front row back) : ∀ other ∈ back, p other = false :=
  fun other hother => h.others other (List.mem_append_right front hother)

/-- The singled row is the only one that a condition finds. -/
theorem filter_eq (h : Singled p rows front row back) : rows.filter p = [row] := by
  have hfront : front.filter p = [] := List.filter_eq_nil_iff.2 (by simpa using h.others_front)
  have hback : back.filter p = [] := List.filter_eq_nil_iff.2 (by simpa using h.others_back)
  rw [h.rows_eq, List.filter_append, List.filter_cons, if_pos h.meets, hfront, hback]
  rfl

theorem countP_eq (h : Singled p rows front row back) : rows.countP p = 1 := by
  rw [List.countP_eq_length_filter, h.filter_eq]
  rfl

/-- Without the row, the others are left. -/
theorem filter_not_eq (h : Singled p rows front row back) : rows.filter (!p ·) = front ++ back := by
  have hfront : front.filter (!p ·) = front := List.filter_eq_self.2 (by simpa using h.others_front)
  have hback : back.filter (!p ·) = back := List.filter_eq_self.2 (by simpa using h.others_back)
  rw [h.rows_eq, List.filter_append, List.filter_cons, if_neg (by simp [h.meets]), hfront, hback]

/-- Where the row changes, it does so at its place. -/
theorem mapWhere_eq (h : Singled p rows front row back) (f : α → α) :
    mapWhere p f rows = front ++ f row :: back := by
  have hfront : mapWhere p f front = front := mapWhere_eq_self h.others_front
  have hback : mapWhere p f back = back := mapWhere_eq_self h.others_back
  rw [mapWhere] at hfront hback
  rw [h.rows_eq, mapWhere, List.map_append, List.map_cons, if_pos h.meets, hfront, hback]

/-- The singled row is the one that is looked up. -/
theorem find?_eq (h : Singled p rows front row back) : rows.find? p = some row := by
  rw [List.find?_eq_some_iff_append]
  refine ⟨h.meets, front, back, h.rows_eq, ?_⟩
  simpa using h.others_front

end Singled

/-- Where a column tells rows apart, at most one row has a value in it. -/
theorem none_or_singled {α κ : Type} [BEq κ] [LawfulBEq κ] {column : α → κ} {rows : List α}
    (h : (rows.map column).Nodup) (k : κ) :
    (∀ row ∈ rows, (column row == k) = false) ∨
      ∃ front row back, Singled (column · == k) rows front row back := by
  cases hfind : rows.find? (column · == k) with
  | none =>
    left
    simpa using hfind
  | some row =>
    right
    obtain ⟨hrow, front, back, rfl, hfront⟩ := List.find?_eq_some_iff_append.1 hfind
    refine ⟨front, row, back, rfl, hrow, fun other hother => ?_⟩
    rcases List.mem_append.1 hother with hother | hother
    · simpa using hfront other hother
    · -- the key is taken by the row that comes before
      rw [List.map_append, List.map_cons] at h
      have hnew : column row ∉ back.map column := (List.nodup_cons.1 h.of_append_right).1
      rw [beq_eq_false_iff_ne]
      intro hsame
      have htaken : column other ∈ back.map column := List.mem_map_of_mem hother
      rw [hsame, ← eq_of_beq hrow] at htaken
      exact hnew htaken

/-- Where one row goes, what has another owner stays. -/
theorem survives_singleton {α : Type} (id : α → Int) (row : α) :
    survives id [row] = (· != id row) := by
  funext owner
  rw [survives, List.any_cons, List.any_nil, Bool.or_false, bne, Bool.beq_comm]

/-- Where no row goes, all stays. -/
theorem survives_nil {α : Type} (id : α → Int) : survives id [] = fun _ => true :=
  rfl

section none

variable {α : Type} {p : α → Bool} {rows : List α}

/-- A condition that no row meets finds none. -/
theorem filter_of_none (h : ∀ row ∈ rows, p row = false) : rows.filter p = [] :=
  List.filter_eq_nil_iff.2 (by simpa using h)

theorem filter_not_of_none (h : ∀ row ∈ rows, p row = false) : rows.filter (!p ·) = rows :=
  List.filter_eq_self.2 (by simpa using h)

theorem countP_of_none (h : ∀ row ∈ rows, p row = false) : rows.countP p = 0 :=
  List.countP_eq_zero.2 (by simpa using h)

end none

/-! ## names -/

/-- How a call names a row: by its natural key, or by its id. -/
inductive Name (κ : Type) where
  | key (k : κ)
  | id (n : Int)
  deriving DecidableEq, Repr

/-- Whether a row has a name. -/
def Name.fits {α κ : Type} [BEq κ] (id : α → Int) (key : α → κ) (name : Name κ) (row : α) : Bool :=
  match name with
  | .key k => key row == k
  | .id n => id row == n

/-- At most one row has a name. -/
theorem Keyed.none_or_singled {α κ : Type} [BEq κ] [LawfulBEq κ] {id : α → Int} {key : α → κ}
    {rows : List α} (h : Keyed id key rows) (name : Name κ) :
    (∀ row ∈ rows, name.fits id key row = false) ∨
      ∃ front row back, Singled (name.fits id key) rows front row back := by
  cases name with
  | key k => exact Catalog.none_or_singled h.keys_nodup k
  | id n => exact Catalog.none_or_singled h.ids_nodup n

/-! ## errands -/

/-- What a call does that means one row: the row goes, or some of its columns change. -/
inductive Errand where
  | dropNarInfo (name : Name String)
  | alterNarInfo (name : Name String) (f : NarInfo Value → NarInfo Value)
  | dropNarFile (name : Name NarFile.Key)
  | alterNarFile (name : Name NarFile.Key) (f : NarFile Value → NarFile Value)
  | dropChunk (name : Name String)

namespace Errand

/-- No row has the name. -/
def Misses (catalog : Catalog) : Errand → Prop
  | dropNarInfo name | alterNarInfo name _ =>
    ∀ row ∈ catalog.narInfos, name.fits NarInfo.id NarInfo.hash row = false
  | dropNarFile name | alterNarFile name _ =>
    ∀ row ∈ catalog.narFiles, name.fits NarFile.id NarFile.key row = false
  | dropChunk name => ∀ row ∈ catalog.chunks, name.fits Chunk.id Chunk.hash row = false

/-- One row has the name, and all that differs between the tables is what the errand is about.  A
row that goes takes along what leads from or to it. -/
def Hits (before after : Catalog) : Errand → Prop
  | dropNarInfo name => ∃ front row back,
    Singled (name.fits NarInfo.id NarInfo.hash) before.narInfos front row back ∧
      after = { before with
        narInfos := front ++ back
        references := before.references.filter (·.narInfo != row.id)
        signatures := before.signatures.filter (·.narInfo != row.id)
        fileLinks := before.fileLinks.filter (·.narInfo != row.id) }
  | alterNarInfo name f => ∃ front row back,
    Singled (name.fits NarInfo.id NarInfo.hash) before.narInfos front row back ∧
      after = { before with narInfos := front ++ f row :: back }
  | dropNarFile name => ∃ front row back,
    Singled (name.fits NarFile.id NarFile.key) before.narFiles front row back ∧
      after = { before with
        narFiles := front ++ back
        fileLinks := before.fileLinks.filter (·.narFile != row.id)
        chunkLinks := before.chunkLinks.filter (·.narFile != row.id) }
  | alterNarFile name f => ∃ front row back,
    Singled (name.fits NarFile.id NarFile.key) before.narFiles front row back ∧
      after = { before with narFiles := front ++ f row :: back }
  | dropChunk name => ∃ front row back,
    Singled (name.fits Chunk.id Chunk.hash) before.chunks front row back ∧
      after = { before with
        chunks := front ++ back
        chunkLinks := before.chunkLinks.filter (·.chunk != row.id) }

/-- The statement that does an errand. -/
def statement : Errand → Write Nat
  | dropNarInfo name => deleteNarInfos fun _ => name.fits NarInfo.id NarInfo.hash
  | alterNarInfo name f => updateNarInfos (name.fits NarInfo.id NarInfo.hash) f
  | dropNarFile name => deleteNarFiles fun _ => name.fits NarFile.id NarFile.key
  | alterNarFile name f => updateNarFiles (name.fits NarFile.id NarFile.key) f
  | dropChunk name => deleteChunks fun _ => name.fits Chunk.id Chunk.hash

variable {catalog after : Catalog}

/-- Where no row has the name, nothing changes. -/
theorem statement_of_misses {errand : Errand} (h : errand.Misses catalog) :
    errand.statement catalog = .ok (0, catalog) := by
  cases errand with
  | dropNarInfo name | dropNarFile name | dropChunk name =>
    simp only [statement, deleteNarInfos, deleteNarFiles, deleteChunks, Write.always,
      filter_of_none h, filter_not_of_none h, survives_nil, List.filter_true, List.length_nil]
  | alterNarInfo name f | alterNarFile name f =>
    simp only [statement, updateNarInfos, updateNarFiles, Write.always, countP_of_none h,
      mapWhere_eq_self h]

/-- Where a row has the name, the statement means this row alone. -/
theorem statement_of_hits {errand : Errand} (h : errand.Hits catalog after) :
    errand.statement catalog = .ok (1, after) := by
  cases errand with
  | dropNarInfo name | dropNarFile name | dropChunk name =>
    obtain ⟨front, row, back, hrow, rfl⟩ := h
    simp only [statement, deleteNarInfos, deleteNarFiles, deleteChunks, Write.always,
      hrow.filter_eq, hrow.filter_not_eq, survives_singleton, List.length_singleton]
  | alterNarInfo name f | alterNarFile name f =>
    obtain ⟨front, row, back, hrow, rfl⟩ := h
    simp only [statement, updateNarInfos, updateNarFiles, Write.always, hrow.countP_eq,
      hrow.mapWhere_eq]

/-- In tables that keep what they promise, an errand either misses or hits one row. -/
theorem misses_or_hits (h : catalog.WellFormed) (errand : Errand) :
    errand.Misses catalog ∨ ∃ after, errand.Hits catalog after := by
  cases errand with
  | dropNarInfo name | alterNarInfo name _ =>
    exact (h.narInfos.none_or_singled name).imp_right fun ⟨front, row, back, hrow⟩ =>
      ⟨_, front, row, back, hrow, rfl⟩
  | dropNarFile name | alterNarFile name _ =>
    exact (h.narFiles.none_or_singled name).imp_right fun ⟨front, row, back, hrow⟩ =>
      ⟨_, front, row, back, hrow, rfl⟩
  | dropChunk name =>
    exact (h.chunks.none_or_singled name).imp_right fun ⟨front, row, back, hrow⟩ =>
      ⟨_, front, row, back, hrow, rfl⟩

end Errand

end NarIndex.Catalog
