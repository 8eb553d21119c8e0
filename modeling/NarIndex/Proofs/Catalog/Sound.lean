import NarIndex.Catalog

/-!
# NarIndex.Proofs.Catalog.Sound

Rows that can be read.  A row of integers is kept as a row of values, and read back as it was, as
long as its sizes and times are in their ranges (`Keepable.read_kept`).  A row of a table is sound
if it is kept from such a row; any number of sound rows can be read (`readAll_of_sound`).
-/

namespace NarIndex

namespace Catalog

/-! ## ranges -/

/-- A number from zero to a limit. -/
def Fits (limit n : Int) : Prop :=
  0 ≤ n ∧ n ≤ limit

/-- A time, in microseconds, that the calendar reaches. -/
def InCalendar (micros : Int) : Prop :=
  Time.earliest ≤ micros ∧ micros ≤ Time.latest

/-- Every timestamp is within the calendar. -/
theorem inCalendar_micros (t : Time.Timestamp) : InCalendar t.micros :=
  ⟨t.earliest_le, t.le_latest⟩

/-- A timestamp is within the calendar. -/
theorem inCalendar_of_mem_some (t : Time.Timestamp) :
    ∀ micros ∈ some t.micros, InCalendar micros := by
  rintro micros ⟨⟩
  exact inCalendar_micros t

/-! ## columns -/

/-- A number is read as it was kept, if it fits. -/
theorem readNumber_integer {limit n : Int} (h : Fits limit n) (column : String) :
    readNumber column limit (.integer n) = .ok n :=
  if_pos h

/-- An instant is read as it was kept, if the calendar has it. -/
theorem readMicros_integer {micros : Int} (h : InCalendar micros) (column : String)
    (type : ColumnType) : readMicros column type (.integer micros) = .ok micros := by
  have hsome : (Time.Timestamp.ofMicros? micros).isSome := by
    rw [Time.Timestamp.ofMicros?, dif_pos ⟨h.1, h.2⟩, Option.isSome_some]
  exact if_pos hsome

/-- A time is read as it was kept, if the calendar has it. -/
theorem readTime_integer {micros : Int} (h : InCalendar micros) (column : String) :
    readTime column (.integer micros) = .ok micros :=
  readMicros_integer h column .time

theorem readOptionalTime_integer {micros : Option Int} (h : ∀ t ∈ micros, InCalendar t)
    (column : String) : readOptionalTime column (micros.map .integer) = .ok micros := by
  cases micros with
  | none => rfl
  | some t =>
    change (do return some (← readMicros column .optionalTime (.integer t))) = _
    rw [readMicros_integer (h t rfl)]
    rfl

/-- An integer that may be missing is always read as it was kept. -/
theorem readOptionalInteger_integer (n : Option Int) (column : String) :
    readOptionalInteger column (n.map .integer) = .ok n := by
  cases n with
  | none => rfl
  | some n => rfl

/-! ## rows -/

/-- Rows of integers that a table keeps as rows of values, and that are read back as they were as
long as they are in their ranges. -/
class Keepable (ρ : Type → Type) [Readable ρ] where
  /-- A row as a table keeps it. -/
  kept : ρ Int → ρ Value
  /-- Whether the sizes and times of a row are in their ranges. -/
  InRange : ρ Int → Prop
  read_kept : ∀ {row : ρ Int}, InRange row → read (kept row) = .ok row

export Keepable (kept InRange read_kept)

end Catalog

open Catalog

/-- The sizes that details name are in their ranges. -/
structure NarInfo.Details.InRange (details : NarInfo.Details Int) : Prop where
  fileSize : ∀ n ∈ details.fileSize, Fits maxInteger n
  narSize : ∀ n ∈ details.narSize, Fits maxInteger n

/-- The sizes and times of a NarInfo are in their ranges. -/
structure NarInfo.InRange (row : NarInfo Int) : Prop where
  details : row.details.InRange
  createdAt : InCalendar row.createdAt
  updatedAt : ∀ t ∈ row.updatedAt, InCalendar t
  lastAccessedAt : InCalendar row.lastAccessedAt

instance : Keepable NarInfo where
  kept row :=
    { row with
      details := row.details.kept, createdAt := .integer row.createdAt,
      updatedAt := row.updatedAt.map .integer, lastAccessedAt := .integer row.lastAccessedAt }
  InRange := NarInfo.InRange
  read_kept {row} h := by
    simp only [Catalog.read, NarInfo.Details.kept, readOptionalInteger_integer,
      readTime_integer h.createdAt, readOptionalTime_integer h.updatedAt,
      readTime_integer h.lastAccessedAt]
    rfl

/-- The sizes and times of a NAR file are in their ranges. -/
structure NarFile.InRange (row : NarFile Int) : Prop where
  fileSize : Fits maxInteger row.fileSize
  totalChunks : Fits maxInteger row.totalChunks
  chunkingStartedAt : ∀ t ∈ row.chunkingStartedAt, InCalendar t
  verifiedAt : ∀ t ∈ row.verifiedAt, InCalendar t
  createdAt : InCalendar row.createdAt
  updatedAt : ∀ t ∈ row.updatedAt, InCalendar t
  lastAccessedAt : InCalendar row.lastAccessedAt

instance : Keepable NarFile where
  kept row :=
    { row with
      fileSize := .integer row.fileSize, totalChunks := .integer row.totalChunks,
      chunkingStartedAt := row.chunkingStartedAt.map .integer,
      verifiedAt := row.verifiedAt.map .integer, createdAt := .integer row.createdAt,
      updatedAt := row.updatedAt.map .integer, lastAccessedAt := .integer row.lastAccessedAt }
  InRange := NarFile.InRange
  read_kept {row} h := by
    simp only [Catalog.read, readNumber_integer h.fileSize, readNumber_integer h.totalChunks,
      readOptionalTime_integer h.chunkingStartedAt, readOptionalTime_integer h.verifiedAt,
      readTime_integer h.createdAt, readOptionalTime_integer h.updatedAt,
      readTime_integer h.lastAccessedAt]
    rfl

/-- The size and times of a chunk are in their ranges. -/
structure Chunk.InRange (row : Chunk Int) : Prop where
  size : Fits Chunk.maxSize row.size
  createdAt : InCalendar row.createdAt
  updatedAt : ∀ t ∈ row.updatedAt, InCalendar t

instance : Keepable Chunk where
  kept row :=
    { row with
      size := .integer row.size, createdAt := .integer row.createdAt,
      updatedAt := row.updatedAt.map .integer }
  InRange := Chunk.InRange
  read_kept {row} h := by
    simp only [Catalog.read, readNumber_integer h.size, readTime_integer h.createdAt,
      readOptionalTime_integer h.updatedAt]
    rfl

/-- The times of a setting are in their ranges. -/
structure Setting.InRange (row : Setting Int) : Prop where
  createdAt : InCalendar row.createdAt
  updatedAt : ∀ t ∈ row.updatedAt, InCalendar t

instance : Keepable Setting where
  kept row :=
    { row with
      createdAt := .integer row.createdAt, updatedAt := row.updatedAt.map .integer }
  InRange := Setting.InRange
  read_kept {row} h := by
    simp only [Catalog.read, readTime_integer h.createdAt, readOptionalTime_integer h.updatedAt]
    rfl

/-! ## sound rows -/

namespace Catalog

variable {ρ : Type → Type} [Readable ρ] [Keepable ρ]

/-- A row of a table is sound if it is kept from a row whose sizes and times are in their ranges. -/
def Sound (row : ρ Value) : Prop :=
  ∃ r : ρ Int, row = kept r ∧ InRange r

/-- A sound row can be read. -/
theorem Sound.read {row : ρ Value} (h : Sound row) : ∃ r, Catalog.read row = .ok r := by
  obtain ⟨r, rfl, hr⟩ := h
  exact ⟨r, read_kept hr⟩

/-- Where each value of a list comes from something, the list comes from a list of such. -/
theorem exists_map_eq {α β : Type} {f : α → β} {P : α → Prop} {values : List β}
    (h : ∀ value ∈ values, ∃ a, value = f a ∧ P a) :
    ∃ as : List α, values = as.map f ∧ ∀ a ∈ as, P a := by
  induction values with
  | nil => exact ⟨[], rfl, by simp⟩
  | cons value values ih =>
    obtain ⟨⟨a, rfl, ha⟩, hvalues⟩ := List.forall_mem_cons.1 h
    obtain ⟨as, rfl, has⟩ := ih hvalues
    exact ⟨a :: as, rfl, List.forall_mem_cons.2 ⟨ha, has⟩⟩

/-- Sound rows are kept from rows whose sizes and times are in their ranges. -/
theorem exists_kept {rows : List (ρ Value)} (h : ∀ row ∈ rows, Sound row) :
    ∃ rs : List (ρ Int), rows = rs.map kept ∧ ∀ r ∈ rs, InRange r :=
  exists_map_eq h

/-- Kept rows are read back as they were, one after the other. -/
theorem readAll_kept {rs : List (ρ Int)} (h : ∀ r ∈ rs, InRange r) :
    readAll (rs.map kept) = .ok rs := by
  induction rs with
  | nil => rfl
  | cons r rs ih =>
    obtain ⟨hr, hrs⟩ := List.forall_mem_cons.1 h
    have hrest := ih hrs
    rw [readAll] at hrest ⊢
    rw [List.map_cons, List.mapM_cons, read_kept hr, hrest]
    rfl

/-- Sound rows can be read, one after the other. -/
theorem readAll_of_sound {rows : List (ρ Value)} (h : ∀ row ∈ rows, Sound row) :
    ∃ rs, readAll rows = .ok rs := by
  obtain ⟨rs, rfl, hrs⟩ := exists_kept h
  exact ⟨rs, readAll_kept hrs⟩

end Catalog

/-! ## rows that come in -/

/-- A NarInfo comes in with nothing out of range. -/
theorem NarInfo.inRange_fresh {details : NarInfo.Details Int} (fits : details.InRange) (id : Int)
    (hash : String) (now : Time.Timestamp) :
    Keepable.InRange (NarInfo.fresh id hash details now.micros) :=
  ⟨fits, inCalendar_micros now, by rintro t ⟨⟩, inCalendar_micros now⟩

/-- A NarInfo can be read as soon as it is in. -/
theorem NarInfo.sound_fresh {details : NarInfo.Details Int} (fits : details.InRange) (id : Int)
    (hash : String) (now : Time.Timestamp) :
    Sound (NarInfo.fresh id hash details.kept (.integer now.micros)) :=
  ⟨_, rfl, NarInfo.inRange_fresh fits id hash now⟩

theorem NarFile.inRange_fresh {fileSize totalChunks : Int} (sizeFits : Fits maxInteger fileSize)
    (chunksFit : Fits maxInteger totalChunks) (id : Int) (key : NarFile.Key)
    (now : Time.Timestamp) :
    Keepable.InRange (NarFile.fresh id key fileSize totalChunks now.micros) :=
  ⟨sizeFits, chunksFit, by rintro t ⟨⟩, by rintro t ⟨⟩, inCalendar_micros now, by rintro t ⟨⟩,
    inCalendar_micros now⟩

theorem NarFile.sound_fresh {fileSize totalChunks : Int} (sizeFits : Fits maxInteger fileSize)
    (chunksFit : Fits maxInteger totalChunks) (id : Int) (key : NarFile.Key)
    (now : Time.Timestamp) :
    Sound
      (NarFile.fresh id key (.integer fileSize) (.integer totalChunks) (.integer now.micros)) :=
  ⟨_, rfl, NarFile.inRange_fresh sizeFits chunksFit id key now⟩

theorem Chunk.inRange_fresh {size : Int} (fits : Fits Chunk.maxSize size) (id : Int)
    (hash : String) (now : Time.Timestamp) :
    Keepable.InRange (Chunk.fresh id hash size now.micros) :=
  ⟨fits, inCalendar_micros now, by rintro t ⟨⟩⟩

theorem Chunk.sound_fresh {size : Int} (fits : Fits Chunk.maxSize size) (id : Int) (hash : String)
    (now : Time.Timestamp) : Sound (Chunk.fresh id hash (.integer size) (.integer now.micros)) :=
  ⟨_, rfl, Chunk.inRange_fresh fits id hash now⟩

theorem Setting.inRange_fresh (id : Int) (key value : String) (now : Time.Timestamp) :
    Keepable.InRange (Setting.fresh id key value now.micros) :=
  ⟨inCalendar_micros now, by rintro t ⟨⟩⟩

theorem Setting.sound_fresh (id : Int) (key value : String) (now : Time.Timestamp) :
    Sound (Setting.fresh id key value (.integer now.micros)) :=
  ⟨_, rfl, Setting.inRange_fresh id key value now⟩

end NarIndex
