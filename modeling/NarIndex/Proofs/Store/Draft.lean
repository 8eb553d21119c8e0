import NarIndex.Proofs.Result
import NarIndex.Store.Create

/-!
# NarIndex.Proofs.Store.Draft

What callers say, and what the store takes of it.  A draft is accepted just when the sizes in it are
storable, and then its details are kept as they are (`detailsOf_of_isStorable`); any other draft is
rejected before the tables are looked at (`detailsOf_of_not_isStorable`).
-/

namespace NarIndex

open Store (detailsOf storable storableOptional)

/-! ## sizes -/

namespace Store

/-- Whether a size is within the range of the integers that a column can hold. -/
def isStorable (size : UInt64) : Bool :=
  (size.toNat : Int) ≤ Catalog.maxInteger

variable {size : UInt64} {size? : Option UInt64}

/-- A storable size is stored as it is. -/
theorem storable_of_isStorable (h : isStorable size) (what : String) :
    storable what size = .ok size.toNat :=
  if_pos (of_decide_eq_true h)

theorem storable_of_not_isStorable (h : isStorable size = false) (what : String) :
    ∃ text, storable what size = .error (.internal text) :=
  ⟨_, if_neg (of_decide_eq_false h)⟩

theorem storableOptional_of_isStorable (h : size?.all isStorable) (what : String) :
    storableOptional what size? = .ok (size?.map fun size => (size.toNat : Int)) := by
  cases size? with
  | none => rfl
  | some size => exact congrArg (Except.map some) (storable_of_isStorable h what)

theorem storableOptional_of_not_isStorable (h : size?.all isStorable = false) (what : String) :
    ∃ text, storableOptional what size? = .error (.internal text) := by
  cases size? with
  | none => contradiction
  | some size =>
    obtain ⟨text, herror⟩ := storable_of_not_isStorable h what
    exact ⟨text, congrArg (Except.map some) herror⟩

end Store

/-! ## drafts -/

namespace NarInfo.Draft

/-- Whether the sizes that a draft names are storable. -/
def isStorable (draft : Draft) : Bool :=
  draft.fileSize.all Store.isStorable && draft.narSize.all Store.isStorable

/-- The details that a draft gives, as they are. -/
def details (draft : Draft) : Details Int where
  storePath := draft.storePath
  url := draft.url
  compression := draft.compression
  fileHash := draft.fileHash
  fileSize := draft.fileSize.map fun size => (size.toNat : Int)
  narHash := draft.narHash
  narSize := draft.narSize.map fun size => (size.toNat : Int)
  deriver := draft.deriver
  system := draft.system
  contentAddress := draft.contentAddress

variable {draft : Draft}

/-- A draft whose sizes are storable is accepted as it is. -/
theorem detailsOf_of_isStorable (h : draft.isStorable) : detailsOf draft = .ok draft.details := by
  obtain ⟨hfile, hnar⟩ := Bool.and_eq_true_iff.1 h
  rw [detailsOf, Store.storableOptional_of_isStorable hfile,
    Store.storableOptional_of_isStorable hnar]
  rfl

/-- Any other draft is rejected. -/
theorem detailsOf_of_not_isStorable (h : draft.isStorable = false) :
    ∃ text, detailsOf draft = .error (.internal text) := by
  cases hfile : draft.fileSize.all Store.isStorable with
  | false =>
    obtain ⟨text, herror⟩ := Store.storableOptional_of_not_isStorable hfile "file_size"
    exact ⟨text, by rw [detailsOf, herror]; rfl⟩
  | true =>
    have hnar : draft.narSize.all Store.isStorable = false := by
      rwa [isStorable, hfile, Bool.true_and] at h
    obtain ⟨text, herror⟩ := Store.storableOptional_of_not_isStorable hnar "nar_size"
    exact ⟨text, by rw [detailsOf, Store.storableOptional_of_isStorable hfile, herror]; rfl⟩

end NarInfo.Draft

/-- Whether the sizes that a draft of a NAR file names are storable. -/
def NarFile.Draft.isStorable (draft : NarFile.Draft) : Bool :=
  Store.isStorable draft.fileSize && Store.isStorable draft.totalChunks

end NarIndex
