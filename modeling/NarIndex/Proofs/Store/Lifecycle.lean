import NarIndex.Proofs.Catalog.Lifecycle
import NarIndex.Proofs.Store.Edits

/-!
# NarIndex.Proofs.Store.Lifecycle

What rows go through in a store.  Whatever has happened to a store, the times of its rows agree; and
no call changes the id of a row, its time of creation, or the size that it came in with
(`Session.Reachable.dated_and_keepsOrigins`).
-/

namespace NarIndex.Store

open Catalog (KeepsOrigins)

namespace Session

/-- The rows of a store, whatever has happened to it.

* A NarInfo or a NAR file has no time of change, and was last used when it came in; or its last
  change and its last use were at the same time.  A chunk has no time of change.  So it is in the
  tables that calls on the handle see, and in those that an open transaction began with.
* A call, over whichever engine and whatever the clock shows, keeps the id and the time of creation
  of every row that is there before and after it, going by its natural key; of a NAR file also the
  file size, and of a chunk the size. -/
theorem Reachable.dated_and_keepsOrigins {session : Session} (h : session.Reachable) :
    session.catalog.Dated ∧ (∀ start ∈ session.saved, start.Dated) ∧
      ∀ (context : Context) (operation : Operation),
        KeepsOrigins session.catalog (operation.run context session.catalog).2 := by
  have hdated : session.Holds Catalog.Dated := h.holds .empty .edit
  refine ⟨hdated.catalog, hdated.saved, fun context operation => ?_⟩
  exact .effect h.wellFormed.catalog (operation.run_effect context session.catalog)

/-- A placeholder that is filled, and a NAR file that is used, while the clock goes back. -/
theorem dated_and_keepsOrigins_backwards :
    let early : Time.Timestamp := ⟨-5, by decide, by decide⟩
    let late : Time.Timestamp := ⟨5, by decide, by decide⟩
    let filled : NarInfo.Draft := { hash := "h", url := some "u", narSize := some 7 }
    let session := (fresh .postgres).after (Event.calls [
      (late, .write (.createNarInfo (placeholder "h"))),
      (late, .write (.createNarFile ⟨{ hash := "a" }, 10, 0⟩)),
      (.epoch, .write (.createNarInfo filled)), (.epoch, .write (.setTotalChunks 1 3))])
    let touch : Operation := .write (.touchNarFile { hash := "a" })
    let after := (touch.run { dialect := .sqlite, now := early } session.catalog).2
    session.Reachable ∧
      session.catalog.narInfos.map (fun row => (row.createdAt, row.updatedAt, row.lastAccessedAt))
        = [(.integer 5, some (.integer 0), .integer 0)] ∧
      session.catalog.Dated ∧
      after.narFiles.map (fun row => (row.origin, row.updatedAt))
        = [((1, .integer 5, .integer 10), some (.integer (-5)))] ∧
      KeepsOrigins session.catalog after := by
  intro early late filled session touch after
  have h : session.Reachable := (Reachable.fresh .postgres).after _
  obtain ⟨hdated, -, hkeeps⟩ := h.dated_and_keepsOrigins
  exact ⟨h, by decide +kernel, hdated, by decide +kernel, hkeeps _ touch⟩

end Session

end NarIndex.Store
