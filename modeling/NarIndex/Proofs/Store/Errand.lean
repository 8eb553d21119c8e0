import NarIndex.Proofs.Catalog.Errand
import NarIndex.Proofs.Store.Sweep

/-!
# NarIndex.Proofs.Store.Errand

Calls that mean one row: deletions, touches and updates of columns.  Each does the errand that its
name says, on the row that it names and on no other, and tells whether there was one
(`Session.Reachable.errand_touches_one`).  A size that is not storable is refused before it comes to
that (`Session.setTotalChunks_unstorable`).
-/

namespace NarIndex.Store

open Catalog (Errand)

/-! ## errands of calls -/

/-- What a call does at a time, if it means one row. -/
def Change.errand? (now : Int) : Change → Option Errand
  | .deleteNarInfoByHash hash => some (.dropNarInfo (.key hash))
  | .deleteNarInfoById id => some (.dropNarInfo (.id id))
  | .deleteNarFileByKey key => some (.dropNarFile (.key key))
  | .deleteNarFileById id => some (.dropNarFile (.id id))
  | .deleteChunkById id => some (.dropChunk (.id id))
  | .touchNarInfo hash => some (.alterNarInfo (.key hash) fun row =>
      { row with updatedAt := some (.integer now), lastAccessedAt := .integer now })
  | .updateNarInfo draft => some (.alterNarInfo (.key draft.hash) fun row =>
      { row with
        details := draft.details.kept, updatedAt := some (.integer now),
        lastAccessedAt := .integer now })
  | .setNarInfoFileSize hash size => some (.alterNarInfo (.key hash) fun row =>
      { row with details := { row.details with fileSize := some (.integer size.toNat) } })
  | .touchNarFile key => some (.alterNarFile (.key key) fun row =>
      { row with updatedAt := some (.integer now), lastAccessedAt := .integer now })
  | .setTotalChunks id totalChunks => some (.alterNarFile (.id id) fun row =>
      { row with totalChunks := .integer totalChunks.toNat })
  | .setChunkingStarted id => some (.alterNarFile (.id id) fun row =>
      { row with chunkingStartedAt := some (.integer now) })
  | .setVerified id verifiedAt => some (.alterNarFile (.id id) fun row =>
      { row with verifiedAt := some (.integer verifiedAt.micros) })
  | _ => none

/-- Whether a call yields the row that it has changed, and not how many rows there were. -/
def Change.yieldsRow : Change → Bool
  | .updateNarInfo _ => true
  | _ => false

/-- What a call answers that finds no row to do its errand on. -/
def Change.missed : Change → Except StoreError Answer
  | .updateNarInfo draft => .error (.notFound "narinfo" draft.hash)
  | _ => .ok (.count 0)

/-- What a call answers that has done its errand: that there was one row, or how it is now. -/
def Change.Confirms (after : Catalog) (answer : Answer) : Change → Prop
  | .updateNarInfo draft => ∃ row : NarInfo Int,
      answer = .narInfo row ∧ row.hash = draft.hash ∧ Catalog.kept row ∈ after.narInfos
  | _ => answer = .count 1

/-- A call that yields its row is an update. -/
theorem Change.eq_updateNarInfo {change : Change} (h : change.yieldsRow) :
    ∃ draft, change = .updateNarInfo draft := by
  cases change with
  | updateNarInfo draft => exact ⟨draft, rfl⟩
  | _ => contradiction

section calls

variable {context : Context} {change : Change} {errand : Errand}

/-- The call is the statement of its errand. -/
theorem Change.run_of_errand (h : change.errand? context.now.micros = some errand)
    (accepted : change.writes) (counts : change.yieldsRow = false) (catalog : Catalog) :
    change.run context catalog = counted context errand.statement catalog := by
  cases change with
  | updateNarInfo => contradiction
  | setNarInfoFileSize | setTotalChunks =>
    cases h
    rw [Change.run, countedWith, storable_of_isStorable accepted]
    rfl
  | _ => cases h <;> rfl

/-- A change that counts finds no row. -/
theorem Change.missed_of_counts (counts : change.yieldsRow = false) :
    change.missed = .ok (.count 0) := by
  cases change with
  | updateNarInfo => contradiction
  | _ => rfl

/-- A change that counts finds one row. -/
theorem Change.confirms_of_counts (counts : change.yieldsRow = false) (after : Catalog) :
    change.Confirms after (.count 1) := by
  cases change with
  | updateNarInfo => contradiction
  | _ => rfl

/-- A call with an errand that is refused has a size that is not storable. -/
theorem Change.run_of_errand_of_not_writes (h : change.errand? context.now.micros = some errand)
    (rejected : change.writes = false) :
    ∃ text, ∀ catalog, change.run context catalog = (.error (.internal text), catalog) := by
  cases change with
  | updateNarInfo draft =>
    obtain ⟨text, herror⟩ := updateNarInfo_of_not_isStorable rejected
    exact ⟨text, fun catalog => congrArg (Outcome.map _) (herror context catalog)⟩
  | setNarInfoFileSize | setTotalChunks =>
    obtain ⟨text, herror⟩ := countedWith_of_not_isStorable rejected _ _
    exact ⟨text, herror context⟩
  | _ => contradiction

end calls

namespace Session

variable {session : Session} {now : Time.Timestamp} {draft : NarInfo.Draft}

/-! ## the call that yields its row -/

/-- An update that gets through gives the row the details, and yields it if there is one. -/
theorem perform_updateNarInfo (free : session.contended = false) (accepted : draft.isStorable) :
    session.perform now (.write (.updateNarInfo draft))
      = ((found "narinfo" draft.hash ((session.catalog.narInfoByHash? draft.hash).map
            (·.amended draft.details.kept (.integer now.micros)))).map .narInfo,
          { session with
            catalog := session.catalog.withAmended draft.hash draft.details now.micros }) := by
  have hupdate : Store.updateNarInfo (session.context now) draft session.catalog
      = (found "narinfo" draft.hash ((session.catalog.narInfoByHash? draft.hash).map
            (·.amended draft.details.kept (.integer now.micros))),
          session.catalog.withAmended draft.hash draft.details now.micros) := by
    rw [updateNarInfo_eq _ _ (NarInfo.Draft.detailsOf_of_isStorable accepted),
      Context.write_ok free (Catalog.amendNarInfoReturning_eq ..)]
    rfl
  rw [perform, Operation.run, Change.run, hupdate]
  rfl

variable {errand : Errand}

/-- An update that finds no row says so, and changes nothing. -/
theorem perform_updateNarInfo_of_misses (free : session.contended = false)
    (accepted : draft.isStorable)
    (herrand : (Change.updateNarInfo draft).errand? now.micros = some errand)
    (h : errand.Misses session.catalog) :
    session.perform now (.write (.updateNarInfo draft))
      = ((Change.updateNarInfo draft).missed, session) := by
  cases herrand
  have hnone : session.catalog.narInfoByHash? draft.hash = none := by
    rw [Catalog.narInfoByHash?, List.find?_eq_none]
    intro row hrow
    exact Bool.eq_false_iff.1 (h row hrow)
  rw [perform_updateNarInfo free accepted, Catalog.withAmended_of_none hnone, hnone]
  rfl

/-- An update that finds a row changes it and yields it. -/
theorem Reachable.perform_updateNarInfo_of_hits (reachable : session.Reachable)
    (free : session.contended = false) (accepted : draft.isStorable) {after : Catalog}
    (herrand : (Change.updateNarInfo draft).errand? now.micros = some errand)
    (h : errand.Hits session.catalog after) :
    ∃ answer, (Change.updateNarInfo draft).Confirms after answer ∧
      session.perform now (.write (.updateNarInfo draft))
        = (.ok answer, { session with catalog := after }) := by
  have hperform := @perform_updateNarInfo session now draft free accepted
  cases herrand
  have hafter : session.catalog.withAmended draft.hash draft.details now.micros = after :=
    congrArg (·.2) (Except.ok.inj (Catalog.Errand.statement_of_hits h))
  have hnext := (reachable.handle (.call now (.write (.updateNarInfo draft)))).wellFormed.catalog
  rw [Session.handle, hperform] at hnext
  obtain ⟨front, row, back, hrow, -⟩ := h
  have hfound : session.catalog.narInfoByHash? draft.hash = some row := hrow.find?_eq
  have hmem := Catalog.mem_withAmended hfound draft.details now.micros
  obtain ⟨r, hkept, hr⟩ := hnext.narInfos.sound _ hmem
  refine ⟨.narInfo r, ⟨r, rfl, ?_, ?_⟩, ?_⟩
  · rw [← Catalog.hash_of_narInfoByHash? hfound]
    exact (congrArg NarInfo.hash hkept).symm
  · rwa [← hkept, ← hafter]
  · rw [hperform, hafter, hfound, Option.map_some, hkept, found, Catalog.read_kept hr]
    rfl

/-! ## errands done -/

section errands

variable {change : Change} (herrand : change.errand? now.micros = some errand)
include herrand

/-- A change with a size that is not storable is refused, and changes nothing. -/
theorem perform_errand_of_rejected (rejected : change.writes = false) :
    ∃ text, session.perform now (.write change) = (.error (.internal text), session) := by
  obtain ⟨text, herror⟩ :=
    @Change.run_of_errand_of_not_writes (session.context now) change errand herrand rejected
  refine ⟨text, ?_⟩
  rw [perform, Operation.run, herror]

variable (accepted : change.writes)
include accepted

/-- Under contention it fails, and changes nothing. -/
theorem perform_errand_of_contended (contended : session.contended = true) :
    session.perform now (.write change) = (.error (.ofDriver "query" .locked), session) := by
  cases hyields : change.yieldsRow with
  | false =>
    exact perform_counted_of_contended (Change.run_of_errand herrand accepted hyields) contended
  | true =>
    obtain ⟨draft, rfl⟩ := Change.eq_updateNarInfo hyields
    have hlocked := @updateNarInfo_of_contended (session.context now) session.catalog contended
      draft accepted
    rw [perform, Operation.run, Change.run, hlocked]
    rfl

variable (free : session.contended = false)
include free

/-- A change of a row that is not there changes nothing. -/
theorem perform_errand_of_misses (h : errand.Misses session.catalog) :
    session.perform now (.write change) = (change.missed, session) := by
  cases hyields : change.yieldsRow with
  | false =>
    rw [Change.missed_of_counts hyields]
    exact perform_counted (Change.run_of_errand herrand accepted hyields) free
      (Errand.statement_of_misses h)
  | true =>
    obtain ⟨draft, rfl⟩ := Change.eq_updateNarInfo hyields
    exact perform_updateNarInfo_of_misses free accepted herrand h

/-- A change of a row that is there confirms it, and changes that row alone. -/
theorem Reachable.perform_errand_of_hits (reachable : session.Reachable) {after : Catalog}
    (h : errand.Hits session.catalog after) :
    ∃ answer, change.Confirms after answer ∧ session.perform now (.write change)
        = (.ok answer, { session with catalog := after }) := by
  cases hyields : change.yieldsRow with
  | false =>
    refine ⟨.count 1, Change.confirms_of_counts hyields after, ?_⟩
    exact perform_counted (Change.run_of_errand herrand accepted hyields) free
      (Errand.statement_of_hits h)
  | true =>
    obtain ⟨draft, rfl⟩ := Change.eq_updateNarInfo hyields
    exact reachable.perform_updateNarInfo_of_hits free accepted herrand h

end errands

/-- Every call that means one row touches only what it names.  Let a call have an errand: it deletes
a row, or it changes columns of one, those that the errand lists.

* If it comes with a size that is not storable, it is refused, and changes nothing.
* Else, if another connection holds the write lock, it fails, and changes nothing.
* Else, either no row has the name that it gives, it says so, and changes nothing; or one row has,
  it confirms that, and the errand is done: a row that is deleted goes with all that leads from it
  or to it, a row that changes does so at its place, and nothing else is different in any
  table. -/
theorem Reachable.errand_touches_one (h : session.Reachable) (now : Time.Timestamp)
    {change : Change} {errand : Errand} (herrand : change.errand? now.micros = some errand) :
    (change.writes = false →
      ∃ text, session.perform now (.write change) = (.error (.internal text), session)) ∧
    (change.writes → session.contended = true →
      session.perform now (.write change) = (.error (.ofDriver "query" .locked), session)) ∧
    (change.writes → session.contended = false →
      (errand.Misses session.catalog ∧
        session.perform now (.write change) = (change.missed, session)) ∨
      ∃ after answer, errand.Hits session.catalog after ∧ change.Confirms after answer ∧
        session.perform now (.write change)
          = (.ok answer, { session with catalog := after })) := by
  refine ⟨perform_errand_of_rejected herrand, perform_errand_of_contended herrand,
    fun accepted free => ?_⟩
  rcases Errand.misses_or_hits h.wellFormed.catalog errand with hmisses | ⟨after, hhits⟩
  · exact .inl ⟨hmisses, perform_errand_of_misses herrand accepted free hmisses⟩
  · obtain ⟨answer, hconfirms, hperform⟩ := h.perform_errand_of_hits herrand accepted free hhits
    exact .inr ⟨after, answer, hhits, hconfirms, hperform⟩

/-- One of two stored forms of a NAR goes, with its links; the other one keeps its own. -/
theorem errand_touches_one_variant :
    let session := (fresh .sqlite).after (Event.calls [
      (.epoch, .write (.createNarInfo (placeholder "h"))),
      (.epoch, .write (.createNarFile ⟨{ hash := "a" }, 10, 1⟩)),
      (.epoch, .write (.createNarFile ⟨{ hash := "a", query := "q" }, 20, 1⟩)),
      (.epoch, .write (.createChunk "c" 5)),
      (.epoch, .write (.linkNarInfoToFile 1 1)), (.epoch, .write (.linkNarInfoToFile 1 2)),
      (.epoch, .write (.linkFileToChunk 1 1 0)), (.epoch, .write (.linkFileToChunk 2 1 0))])
    let drop : Change := .deleteNarFileByKey { hash := "a" }
    let errand : Errand := .dropNarFile (.key { hash := "a" })
    session.Reachable ∧ drop.errand? Time.Timestamp.epoch.micros = some errand ∧ drop.writes ∧
      session.contended = false ∧
      ∃ after answer, errand.Hits session.catalog after ∧ drop.Confirms after answer ∧
        session.perform .epoch (.write drop) = (.ok answer, { session with catalog := after }) ∧
        after.narFiles.map (fun row => (row.id, row.key.query)) = [(2, "q")] ∧
        after.fileLinks = [⟨1, 2⟩] ∧ after.chunkLinks = [⟨2, 1, 0⟩] ∧
        after.narInfos.length = 1 ∧ after.chunks.length = 1 := by
  intro session drop errand
  have h : session.Reachable := (Reachable.fresh .sqlite).after _
  have hreply : (session.perform .epoch (.write drop)).1 = .ok (.count 1) := by decide +kernel
  refine ⟨h, rfl, rfl, rfl, ?_⟩
  obtain ⟨-, -, hdone⟩ := @Reachable.errand_touches_one session h .epoch drop errand rfl
  rcases hdone rfl rfl with ⟨-, hmissed⟩ | ⟨after, answer, hhits, hconfirms, hperform⟩
  · rw [hmissed] at hreply
    exact absurd hreply (by decide)
  · have hafter : (session.perform .epoch (.write drop)).2.catalog = after := by rw [hperform]
    refine ⟨after, answer, hhits, hconfirms, hperform, ?_⟩
    rw [← hafter]
    decide +kernel

/-- A number of chunks that is not storable is refused, though the NAR file is there. -/
theorem setTotalChunks_unstorable :
    let session := (fresh .sqlite).after [
      .call .epoch (.write (.createNarFile ⟨{ hash := "a" }, 10, 0⟩))]
    session.Reachable ∧ session.contended = false ∧
      (∃ row ∈ session.catalog.narFiles, row.id = 1) ∧
      session.perform .epoch (.write (.setTotalChunks 1 9223372036854775808))
        = (.error (.internal "total_chunks 9223372036854775808 exceeds the storable range"),
            session) ∧
      (session.perform .epoch (.write (.setTotalChunks 1 9223372036854775808))).1
        ≠ .ok (.count 1) := by
  intro session
  exact ⟨(Reachable.fresh .sqlite).after _, rfl, by decide +kernel, by decide +kernel,
    by decide +kernel⟩

end Session

end NarIndex.Store
