import NarIndex.Proofs.Store.Eviction
import NarIndex.Proofs.Store.Lookup

/-!
# NarIndex.Proofs.Store.Touching

NAR files that are used.  Calls that mark NAR files as used, however many and in whatever order,
change of each file no more than when it was used: to the time of one of the calls that named it
(`NarFile.exists_lastAccessedAt`).  So a file that none of them names is the first to go once all
others have been used later (`Session.Reachable.touching_protects`).
-/

namespace NarIndex

open Catalog (Keepable kept mapWhere)

/-! ## a NAR file and its uses -/

/-- A use of a NAR file: when it was, and of which one. -/
structure NarFile.Touch where
  now : Time.Timestamp
  key : NarFile.Key

namespace NarFile

/-- A NAR file after a use, of this one or another. -/
def Touch.on (touch : Touch) (file : NarFile Int) : NarFile Int :=
  if file.key == touch.key then file.touched touch.now.micros else file

/-- A NAR file after uses, in their order. -/
def afterTouches (touches : List Touch) (file : NarFile Int) : NarFile Int :=
  touches.foldl (fun file touch => touch.on file) file

section touches

variable {touch : Touch} {touches : List Touch} {file : NarFile Int}

@[simp] theorem Touch.on_key : (touch.on file).key = file.key := by
  unfold on
  split <;> rfl

@[simp] theorem Touch.on_fileSize : (touch.on file).fileSize = file.fileSize := by
  unfold on
  split <;> rfl

theorem Touch.inRange_on (h : Keepable.InRange file) : Keepable.InRange (touch.on file) := by
  have hfile : file.InRange := h
  unfold on
  split
  · exact { hfile with
      updatedAt := Catalog.inCalendar_of_mem_some touch.now
      lastAccessedAt := Catalog.inCalendar_micros touch.now }
  · exact h

@[simp] theorem afterTouches_cons (touch : Touch) (touches : List Touch) (file : NarFile Int) :
    file.afterTouches (touch :: touches) = (touch.on file).afterTouches touches :=
  rfl

/-- However often a file is used, it stays in range. -/
theorem inRange_afterTouches (h : Keepable.InRange file) :
    Keepable.InRange (file.afterTouches touches) := by
  induction touches generalizing file with
  | nil => exact h
  | cons touch touches ih => exact ih (Touch.inRange_on h)

@[simp] theorem fileSize_afterTouches : (file.afterTouches touches).fileSize = file.fileSize := by
  induction touches generalizing file with
  | nil => rfl
  | cons touch touches ih => rw [afterTouches_cons, ih, Touch.on_fileSize]

/-- A NAR file is as it was if none of the uses is of it. -/
theorem afterTouches_of_notMem (h : file.key ∉ touches.map Touch.key) :
    file.afterTouches touches = file := by
  induction touches with
  | nil => rfl
  | cons touch touches ih =>
    rw [List.map_cons, List.mem_cons, not_or] at h
    have hon : touch.on file = file := if_neg (by simpa using h.1)
    rw [afterTouches_cons, hon, ih h.2]

/-- A NAR file was used last at the time of one of its uses. -/
theorem exists_lastAccessedAt (h : file.key ∈ touches.map Touch.key) :
    ∃ touch ∈ touches, (file.afterTouches touches).lastAccessedAt = touch.now.micros := by
  induction touches generalizing file with
  | nil => contradiction
  | cons touch touches ih =>
    by_cases hlater : file.key ∈ touches.map Touch.key
    · obtain ⟨last, hlast, heq⟩ := @ih (touch.on file) (by simpa using hlater)
      exact ⟨last, List.mem_cons_of_mem touch hlast, heq⟩
    · -- no later use is of this file, so that this one is the last
      have hkey : file.key = touch.key := by
        rw [List.map_cons, List.mem_cons] at h
        exact h.resolve_right hlater
      refine ⟨touch, List.mem_cons_self, ?_⟩
      rw [afterTouches_cons, afterTouches_of_notMem (by simpa using hlater), Touch.on,
        if_pos (beq_iff_eq.2 hkey)]
      rfl

end touches

end NarFile

namespace Store

open Catalog (LongestAffordable maxInteger)
open NarFile (Touch)

/-- The call that marks a NAR file as used, and its time. -/
def touching (touch : Touch) : Time.Timestamp × Operation :=
  (touch.now, .write (.touchNarFile touch.key))

namespace Session

variable {session : Session} {files : List (NarFile Int)} {touches : List Touch}

/-! ## calls -/

/-- The handle with other NAR files. -/
def withNarFiles (session : Session) (files : List (NarFile Int)) : Session :=
  { session with catalog := { session.catalog with narFiles := files.map kept } }

/-- Marking a NAR file as used changes the rows as they are read. -/
theorem mapWhere_touched (touch : Touch) (files : List (NarFile Int)) :
    mapWhere (·.key == touch.key) (·.touched (.integer touch.now.micros)) (files.map kept)
      = (files.map touch.on).map kept := by
  rw [mapWhere, List.map_map, List.map_map]
  refine List.map_congr_left fun file _ => ?_
  have hkey : (kept file).key = file.key := rfl
  simp only [Function.comp_apply, hkey, Touch.on]
  split <;> rfl

/-- A call that marks a NAR file as used gets through, unless another connection has the write
lock. -/
theorem perform_touching (hfiles : session.catalog.narFiles = files.map kept)
    (free : session.contended = false) (touch : Touch) :
    ∃ n, session.perform touch.now (.write (.touchNarFile touch.key))
      = (.ok (.count n), session.withNarFiles (files.map touch.on)) := by
  obtain ⟨n, hstatement⟩ : ∃ n, Catalog.touchNarFile touch.key touch.now.micros session.catalog
      = .ok (n, (session.withNarFiles (files.map touch.on)).catalog) := by
    rw [Catalog.touchNarFile, Catalog.updateNarFiles, Catalog.Write.always, hfiles,
      mapWhere_touched]
    exact ⟨_, rfl⟩
  exact ⟨n, perform_counted (fun _ => rfl) free hstatement⟩

/-- Such calls all succeed, unless another connection has the write lock, and leave the NAR files as
the uses do. -/
theorem after_touching (hfiles : session.catalog.narFiles = files.map kept)
    (free : session.contended = true → touches = []) :
    session.AllSucceed (touches.map touching) ∧
      session.after (Event.calls (touches.map touching))
        = session.withNarFiles (files.map (NarFile.afterTouches touches)) := by
  induction touches generalizing session files with
  | nil =>
    have hsame : files.map (NarFile.afterTouches []) = files := List.map_id files
    rw [hsame, withNarFiles, ← hfiles]
    exact ⟨session.allSucceed_nil, rfl⟩
  | cons touch touches ih =>
    have hfree : session.contended = false := by simpa using free
    obtain ⟨n, hperform⟩ := perform_touching hfiles hfree touch
    let next := session.withNarFiles (files.map touch.on)
    obtain ⟨hall, hafter⟩ := @ih next (files.map touch.on) rfl (by simp [next, withNarFiles, hfree])
    refine calls_cons hperform ⟨hall, ?_⟩
    rw [hafter, List.map_map]
    rfl

/-- Under the lock no NAR file can be marked as used. -/
theorem eq_nil_of_allSucceed (locked : session.contended = true)
    (hall : session.AllSucceed (touches.map touching)) : touches = [] := by
  cases touches with
  | nil => rfl
  | cons touch touches =>
    obtain ⟨⟨answer, hok⟩, -⟩ := allSucceed_cons.1 hall
    have hlocked : session.perform touch.now (.write (.touchNarFile touch.key)) = _ :=
      perform_counted_of_contended (fun _ => rfl) locked
    rw [hlocked] at hok
    contradiction

/-! ## what goes first -/

/-- A NAR file that was used before all others, which take space, goes first: a budget of its size
selects just this file, and a smaller one selects none. -/
theorem Reachable.selects_first (h : session.Reachable)
    (hfiles : Catalog.readAll session.catalog.narFiles = .ok files)
    (fits : (files.map (·.fileSize)).sum ≤ maxInteger) {file : NarFile Int} (hfile : file ∈ files)
    (first : ∀ other ∈ files, other ≠ file → file.lastAccessedAt < other.lastAccessedAt)
    (positive : ∀ other ∈ files, other ≠ file → 0 < other.fileSize) (budget : UInt64) :
    (budget.toNat = file.fileSize →
      session.Answers (.leastUsedFiles budget) (.narFiles [file])) ∧
    (budget.toNat < file.fileSize →
      session.Answers (.leastUsedFiles budget) (.narFiles [])) := by
  obtain ⟨ordered, horder, hanswer⟩ :=
    leastUsedFiles_selects h.wellFormed.catalog budget hfiles
  obtain ⟨rest, rfl, hrest⟩ := horder.eq_cons hfile first
  have hpositive : ∀ other ∈ rest, 0 < other.fileSize := fun other hother =>
    positive other (hrest other hother).1 (hrest other hother).2
  rw [if_neg (Int.not_lt.2 fits)] at hanswer
  obtain ⟨chosen, hchosen, hlongest⟩ := hanswer
  have hanswers : session.Answers (.leastUsedFiles budget) (.narFiles chosen) :=
    answers_iff.2 hchosen
  refine ⟨fun hsize => ?_, fun hsmall => ?_⟩
  · rw [hsize] at hlongest
    rwa [hlongest.unique (.singleton hpositive)] at hanswers
  · have hsizes : ∀ other ∈ rest, 0 ≤ other.fileSize := fun other hother =>
      Int.le_of_lt (hpositive other hother)
    have hnone := LongestAffordable.of_lt hsizes (Int.natCast_nonneg budget.toNat) hsmall
    rwa [hlongest.unique hnone] at hanswers

/-- A NAR file that is left alone while all others are used later is the first to go.  Let calls
mark NAR files as used, in any order and with any repetition, each other NAR file at least once and
this one never, and all later than this one was used last.  They all succeed, unless another
connection has the write lock; and if they do, and all other files take space, then a budget of the
size of this file selects just this file, and a smaller one selects none. -/
theorem Reachable.touching_protects (h : session.Reachable)
    (hfiles : Catalog.readAll session.catalog.narFiles = .ok files)
    (fits : (files.map (·.fileSize)).sum ≤ maxInteger) {file : NarFile Int} (hfile : file ∈ files)
    (others : ∀ other ∈ files, other ≠ file → other.key ∈ touches.map Touch.key)
    (never : file.key ∉ touches.map Touch.key)
    (later : ∀ touch ∈ touches, file.lastAccessedAt < touch.now.micros) :
    (session.contended = false → session.AllSucceed (touches.map touching)) ∧
    (session.AllSucceed (touches.map touching) →
      (∀ other ∈ files, other ≠ file → 0 < other.fileSize) →
      let after := session.after (Event.calls (touches.map touching))
      after.Answers (.leastUsedFiles (.ofNat file.fileSize.toNat)) (.narFiles [file]) ∧
        ∀ budget : UInt64, budget.toNat < file.fileSize →
          after.Answers (.leastUsedFiles budget) (.narFiles [])) := by
  obtain ⟨hrows, hrange, -⟩ := h.wellFormed.catalog.narFiles.rows_of_readAll hfiles
  refine ⟨fun free => (after_touching hrows (by simp [free])).1, fun hall positive => ?_⟩
  intro after
  have hafter : after = session.withNarFiles (files.map (NarFile.afterTouches touches)) :=
    (after_touching hrows fun locked => eq_nil_of_allSucceed locked hall).2
  have hread : Catalog.readAll after.catalog.narFiles
      = .ok (files.map (NarFile.afterTouches touches)) := by
    rw [hafter]
    exact Catalog.readAll_kept (List.forall_mem_map.2 fun other hother =>
      NarFile.inRange_afterTouches (hrange other hother))
  have hsizes : ((files.map (NarFile.afterTouches touches)).map (·.fileSize)).sum ≤ maxInteger := by
    simpa [Function.comp_def] using fits
  have hmem : file ∈ files.map (NarFile.afterTouches touches) :=
    List.mem_map.2 ⟨file, hfile, NarFile.afterTouches_of_notMem never⟩
  have hothers : ∀ other ∈ files.map (NarFile.afterTouches touches), other ≠ file →
      file.lastAccessedAt < other.lastAccessedAt ∧ 0 < other.fileSize := by
    intro other hother hne
    obtain ⟨before, hbefore, rfl⟩ := List.mem_map.1 hother
    have hdiffers : before ≠ file := by
      rintro rfl
      exact hne (NarFile.afterTouches_of_notMem never)
    obtain ⟨touch, htouch, hlast⟩ :=
      NarFile.exists_lastAccessedAt (others before hbefore hdiffers)
    rw [hlast, NarFile.fileSize_afterTouches]
    exact ⟨later touch htouch, positive before hbefore hdiffers⟩
  have hselects := (h.after (Event.calls (touches.map touching))).selects_first hread hsizes hmem
    (fun other hother hne => (hothers other hother hne).1)
    (fun other hother hne => (hothers other hother hne).2)
  have hbudget : ((UInt64.ofNat file.fileSize.toNat).toNat : Int) = file.fileSize := by
    obtain ⟨hnonneg, hstorable⟩ := (hrange file hfile).fileSize
    rw [UInt64.toNat_ofNat']
    rw [maxInteger] at hstorable
    omega
  exact ⟨(hselects _).1 hbudget, fun budget => (hselects budget).2⟩

/-- Three NAR files of the same time.  The first is left alone, of the others one is used twice, and
both at the same time in the end. -/
theorem touching_protects_same_time :
    let session := (fresh .sqlite).after
      [.call .epoch (.write (.createNarFile ⟨{ hash := "a" }, 100, 0⟩)),
        .call .epoch (.write (.createNarFile ⟨{ hash := "a", compression := "xz" }, 1, 0⟩)),
        .call .epoch (.write (.createNarFile ⟨{ hash := "b" }, 9, 0⟩))]
    let files : List (NarFile Int) :=
      [.fresh 1 { hash := "a" } 100 0 0, .fresh 2 { hash := "a", compression := "xz" } 1 0 0,
        .fresh 3 { hash := "b" } 9 0 0]
    let file : NarFile Int := .fresh 1 { hash := "a" } 100 0 0
    let soon : Time.Timestamp := ⟨1, by decide, by decide⟩
    let late : Time.Timestamp := ⟨5, by decide, by decide⟩
    let touches : List Touch :=
      [⟨late, { hash := "b" }⟩, ⟨soon, { hash := "a", compression := "xz" }⟩,
        ⟨soon, { hash := "c" }⟩, ⟨late, { hash := "a", compression := "xz" }⟩]
    let after := session.after (Event.calls (touches.map touching))
    session.Reachable ∧ Catalog.readAll session.catalog.narFiles = .ok files ∧
      (files.map (·.fileSize)).sum ≤ maxInteger ∧ file ∈ files ∧
      session.AllSucceed (touches.map touching) ∧
      after.Answers (.leastUsedFiles 100) (.narFiles [file]) ∧
      after.Answers (.leastUsedFiles 99) (.narFiles []) := by
  intro session files file soon late touches after
  have h : session.Reachable := (Reachable.fresh .sqlite).after _
  have hfiles : Catalog.readAll session.catalog.narFiles = .ok files := by decide +kernel
  have fits : (files.map (·.fileSize)).sum ≤ maxInteger := by decide
  have hfile : file ∈ files := by decide
  obtain ⟨hsucceed, hprotects⟩ :=
    @Reachable.touching_protects session files touches h hfiles fits file hfile (by decide)
      (by decide) (by decide)
  have hall := hsucceed rfl
  obtain ⟨hjust, hnone⟩ := hprotects hall (by decide)
  exact ⟨h, hfiles, fits, hfile, hall, hjust, hnone 99 (by decide)⟩

end Session

end Store

end NarIndex
