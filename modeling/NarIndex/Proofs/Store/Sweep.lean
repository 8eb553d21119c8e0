import NarIndex.Proofs.Catalog.Orphans
import NarIndex.Proofs.Store.Contention
import NarIndex.Proofs.Store.Lookup

/-!
# NarIndex.Proofs.Store.Sweep

Sweeping a store.  Of each table that relations lead to or from, one call lists the rows that
nothing refers to, and another one deletes them.  The one deletes just what the other lists, and is
done after that; NarInfos and NAR files can be swept in either order, and once chunks have been
swept after them, nothing is listed any more; and whatever sweeps there are, all that is linked
stays (`Session.Reachable.sweeps_reach_fixpoint`).
-/

namespace NarIndex

open Catalog (Value Readable Keepable Sweep Write kept InRange read_kept)

/-! ## calls that sweep -/

namespace Catalog.Sweep

open Store (Query Change Answer)

/-- What is listed of the rows that the sweep deletes. -/
def Row : Sweep → Type
  | narInfos => NarInfo Int
  | narFiles => NarFile Int
  | chunks => Chunk Int

/-- The id of a row. -/
def idOf : (sweep : Sweep) → sweep.Row → Int
  | narInfos => NarInfo.id
  | narFiles => NarFile.id
  | chunks => Chunk.id

/-- The answer that lists some rows. -/
def answer : (sweep : Sweep) → List sweep.Row → Answer
  | narInfos => .narInfos
  | narFiles => .narFiles
  | chunks => .chunks

/-- The call that lists the rows that the sweep deletes. -/
def listing : Sweep → Query
  | narInfos => .orphanedNarInfos
  | narFiles => .orphanedFiles
  | chunks => .orphanedChunks

/-- The call that deletes them. -/
def deletion : Sweep → Change
  | narInfos => .deleteOrphanedNarInfos
  | narFiles => .deleteOrphanedFiles
  | chunks => .deleteOrphanedChunks

end Catalog.Sweep

namespace Store

/-- Sweeps one after the other, each at its time. -/
def Event.sweeps (job : List (Time.Timestamp × Sweep)) : List Event :=
  Event.calls (job.map fun (now, sweep) => (now, .write sweep.deletion))

/-- Of the rows that meet a condition, all are listed. -/
theorem exists_listed {ρ : Type → Type} [Readable ρ] [Keepable ρ] {κ : Type} {id : ρ Value → Int}
    {key : ρ Value → κ} {rows : List (ρ Value)} (h : Catalog.SoundRows id key rows)
    (p : ρ Value → Bool) :
    ∃ rs : List (ρ Int), listed (Catalog.byId id (rows.filter p)) = .ok rs ∧
      rs.map kept = rows.filter p ∧ ∀ r ∈ rs, InRange r := by
  obtain ⟨rs, hrs, hrange, -⟩ := (h.filter p).exists_rows
  refine ⟨rs, ?_, hrs.symm, hrange⟩
  rw [(h.filter p).byId_eq, hrs, listed_kept hrange]

/-- A row that meets the condition is listed as it is. -/
theorem exists_listed_mem {ρ : Type → Type} [Readable ρ] [Keepable ρ] {κ : Type}
    {id : ρ Value → Int} {key : ρ Value → κ} {rows : List (ρ Value)}
    (h : Catalog.SoundRows id key rows) {p : ρ Value → Bool} {row : ρ Int}
    (hrow : kept row ∈ rows.filter p) (hrange : InRange row) :
    ∃ rs : List (ρ Int), listed (Catalog.byId id (rows.filter p)) = .ok rs ∧ row ∈ rs := by
  obtain ⟨rs, hlisted, hkept, hranges⟩ := exists_listed h p
  rw [← hkept] at hrow
  obtain ⟨r, hr, heq⟩ := List.mem_map.1 hrow
  rw [eq_of_kept_eq (hranges r hr) hrange heq] at hr
  exact ⟨rs, hlisted, hr⟩

/-- The call lists the rows that the sweep deletes. -/
theorem exists_listing {catalog : Catalog} (h : catalog.WellFormed) (sweep : Sweep) :
    ∃ listed : List sweep.Row,
      (∀ dialect, sweep.listing.answer dialect catalog = .ok (sweep.answer listed)) ∧
        listed.map sweep.idOf = sweep.orphans catalog := by
  cases sweep with
  | narInfos =>
    obtain ⟨rs, hlisted, hkept, -⟩ := exists_listed h.narInfos catalog.lacksFile
    refine ⟨rs, fun _ => congrArg (Except.map _) hlisted, ?_⟩
    rw [Sweep.orphans, ← hkept, List.map_map]
    rfl
  | narFiles =>
    obtain ⟨rs, hlisted, hkept, -⟩ := exists_listed h.narFiles catalog.lacksNarInfo
    refine ⟨rs, fun _ => congrArg (Except.map _) hlisted, ?_⟩
    rw [Sweep.orphans, ← hkept, List.map_map]
    rfl
  | chunks =>
    obtain ⟨rs, hlisted, hkept, -⟩ := exists_listed h.chunks catalog.lacksPlace
    refine ⟨rs, fun _ => congrArg (Except.map _) hlisted, ?_⟩
    rw [Sweep.orphans, ← hkept, List.map_map]
    rfl

namespace Session

variable {session : Session}

/-- A call that yields how many rows its statement meant. -/
theorem perform_counted {change : Change} {statement : Write Nat} {n : Nat} {after : Catalog}
    {now : Time.Timestamp} (hchange : ∀ catalog, change.run (session.context now) catalog
      = counted (session.context now) statement catalog)
    (free : session.contended = false) (h : statement session.catalog = .ok (n, after)) :
    session.perform now (.write change) = (.ok (.count n), { session with catalog := after }) := by
  have hrun : change.run (session.context now) session.catalog = (.ok (.count n), after) := by
    rw [hchange, counted, Context.write_ok free h]
    rfl
  rw [perform, Operation.run, hrun]

/-- Under contention it does not get through. -/
theorem perform_counted_of_contended {change : Change} {statement : Write Nat}
    {now : Time.Timestamp} (hchange : ∀ catalog, change.run (session.context now) catalog
      = counted (session.context now) statement catalog)
    (contended : session.contended = true) :
    session.perform now (.write change) = (.error (.ofDriver "query" .locked), session) := by
  have hrun : change.run (session.context now) session.catalog
      = (.error (.ofDriver "query" .locked), session.catalog) := by
    rw [hchange, counted, Context.write_of_contended contended]
    rfl
  rw [perform, Operation.run, hrun]

/-- A sweep counts what it deletes. -/
theorem perform_sweep (free : session.contended = false) (now : Time.Timestamp) (sweep : Sweep) :
    session.perform now (.write sweep.deletion)
      = (.ok (.count (sweep.orphans session.catalog).length),
          { session with catalog := sweep.run session.catalog }) :=
  perform_counted (by cases sweep <;> exact fun _ => rfl) free (sweep.statement_eq session.catalog)

/-- Under contention a sweep fails, and deletes nothing. -/
theorem perform_sweep_of_contended (contended : session.contended = true) (now : Time.Timestamp)
    (sweep : Sweep) :
    session.perform now (.write sweep.deletion)
      = (.error (.ofDriver "query" .locked), session) := by
  cases sweep with
  | narInfos => exact perform_counted_of_contended (fun _ => rfl) contended
  | narFiles => exact perform_counted_of_contended (fun _ => rfl) contended
  | chunks => exact perform_counted_of_contended (fun _ => rfl) contended

theorem after_sweeps_of_contended (contended : session.contended = true)
    (job : List (Time.Timestamp × Sweep)) : session.after (Event.sweeps job) = session :=
  after_calls_of_contended contended _

/-- Sweeps change nothing but the tables. -/
theorem after_sweeps (free : session.contended = false) (job : List (Time.Timestamp × Sweep)) :
    session.after (Event.sweeps job)
      = { session with catalog := Sweep.runAll (job.map (·.2)) session.catalog } := by
  induction job generalizing session with
  | nil => rfl
  | cons step job ih =>
    obtain ⟨now, sweep⟩ := step
    change (session.perform now (.write sweep.deletion)).2.after (Event.sweeps job) = _
    rw [perform_sweep free]
    exact @ih { session with catalog := sweep.run session.catalog } free

theorem results_sweeps_cons (free : session.contended = false) (now : Time.Timestamp)
    (sweep : Sweep) (job : List (Time.Timestamp × Sweep)) :
    session.results (Event.sweeps ((now, sweep) :: job))
      = .ok (.count (sweep.orphans session.catalog).length)
        :: results { session with catalog := sweep.run session.catalog } (Event.sweeps job) := by
  change (session.perform now (.write sweep.deletion)).1
    :: (session.perform now (.write sweep.deletion)).2.results (Event.sweeps job) = _
  rw [perform_sweep free]

theorem results_sweeps_of_contended (contended : session.contended = true)
    (job : List (Time.Timestamp × Sweep)) :
    session.results (Event.sweeps job) = job.map fun _ => .error (.ofDriver "query" .locked) := by
  induction job with
  | nil => rfl
  | cons step job ih =>
    change (session.perform step.1 (.write step.2.deletion)).1
      :: (session.perform step.1 (.write step.2.deletion)).2.results (Event.sweeps job) = _
    rw [perform_sweep_of_contended contended, ih, List.map_cons]

/-- A sweep that is run again deletes nothing. -/
theorem perform_sweep_again (free : session.contended = false) (now : Time.Timestamp)
    (sweep : Sweep) :
    let swept : Session := { session with catalog := sweep.run session.catalog }
    swept.perform now (.write sweep.deletion) = (.ok (.count 0), swept) := by
  intro swept
  rw [@perform_sweep swept free, Sweep.orphans_run_self, Sweep.run_run]
  rfl

/-- NarInfos and NAR files can be swept in either order, and the answers are the same. -/
theorem sweeps_comm (session : Session) (t₁ t₂ t₃ t₄ : Time.Timestamp) :
    let one := Event.sweeps [(t₁, .narInfos), (t₂, .narFiles)]
    let other := Event.sweeps [(t₃, .narFiles), (t₄, .narInfos)]
    session.after one = session.after other ∧
      session.results one = (session.results other).reverse := by
  intro one other
  cases hlock : session.contended with
  | true =>
    rw [after_sweeps_of_contended hlock, after_sweeps_of_contended hlock,
      results_sweeps_of_contended hlock, results_sweeps_of_contended hlock]
    exact ⟨rfl, rfl⟩
  | false =>
    constructor
    · rw [after_sweeps hlock, after_sweeps hlock]
      exact congrArg (fun catalog => { session with catalog }) (Sweep.run_comm session.catalog)
    · -- neither sweep makes orphans for the other one
      have hfiles : Sweep.narFiles.orphans (Sweep.narInfos.run session.catalog)
          = Sweep.narFiles.orphans session.catalog := by
        rw [Sweep.orphans_run _ _ (by simp), if_neg (by simp)]
      have hinfos : Sweep.narInfos.orphans (Sweep.narFiles.run session.catalog)
          = Sweep.narInfos.orphans session.catalog := by
        rw [Sweep.orphans_run _ _ (by simp), if_neg (by simp)]
      have hthen (first second : Sweep) (t : Time.Timestamp) :=
        @results_sweeps_cons { session with catalog := first.run session.catalog } hlock t second []
      rw [results_sweeps_cons hlock, results_sweeps_cons hlock, hthen, hthen, hfiles, hinfos]
      rfl

/-- Once chunks have been swept after NarInfos and NAR files, nothing is listed any more. -/
theorem Reachable.listing_after_pass (h : session.Reachable) (free : session.contended = false)
    {job : List (Time.Timestamp × Sweep)}
    (hjob : job.map (·.2) = [.narInfos, .narFiles, .chunks]
      ∨ job.map (·.2) = [.narFiles, .narInfos, .chunks])
    (sweep : Sweep) (now : Time.Timestamp) :
    ((session.after (Event.sweeps job)).perform now (.read sweep.listing)).1
      = .ok (sweep.answer []) := by
  have hnone : sweep.orphans (Sweep.runAll (job.map (·.2)) session.catalog) = [] := by
    rcases hjob with hjob | hjob
    · rw [hjob]
      exact sweep.orphans_pass session.catalog
    · rw [hjob]
      change sweep.orphans (Sweep.chunks.run (Sweep.narInfos.run (Sweep.narFiles.run _))) = []
      rw [← Sweep.run_comm, sweep.orphans_pass]
  obtain ⟨listed, hlisted, hids⟩ :=
    exists_listing (h.after (Event.sweeps job)).wellFormed.catalog sweep
  rw [after_sweeps free, hnone, List.map_eq_nil_iff] at hids
  rw [← hids]
  exact hlisted _

/-- Sweeps keep all links, and the chunks of NAR files with a link. -/
theorem after_sweeps_keeps (session : Session) (job : List (Time.Timestamp × Sweep)) :
    let after := session.after (Event.sweeps job)
    after.catalog.fileLinks = session.catalog.fileLinks ∧
      ∀ link ∈ session.catalog.fileLinks, ∀ now,
        (after.perform now (.read (.chunksOfFile link.narFile))).1
          = (session.perform now (.read (.chunksOfFile link.narFile))).1 := by
  intro after
  have hafter : after = session.after (Event.sweeps job) := rfl
  cases hlock : session.contended with
  | true =>
    rw [hafter, after_sweeps_of_contended hlock]
    exact ⟨rfl, fun _ _ _ => rfl⟩
  | false =>
    rw [hafter, after_sweeps hlock]
    refine ⟨Sweep.fileLinks_runAll _ _, fun link hlink now => ?_⟩
    exact congrArg (fun chunks => (listed chunks).map Answer.chunks)
      (Sweep.chunksOf_runAll session.catalog _ hlink)

/-- Sweeping a store.

* Unless another connection has locked the store, each sweep deletes just the rows that the call
  beside it lists, with all that leads from or to them, and yields how many those are.  When it is
  run again, it deletes nothing.  Under the lock it fails, and changes nothing.
* Sweeping NarInfos and then NAR files comes to the same as sweeping them the other way round, also
  in what each of the two yields.
* Once both have been swept, and chunks after them, nothing is listed any more.
* Whatever sweeps there are, all links between NarInfos and NAR files stay, and a NAR file with such
  a link keeps its chunks. -/
theorem Reachable.sweeps_reach_fixpoint (h : session.Reachable) :
    (∀ sweep : Sweep, ∃ listed : List sweep.Row,
      (∀ now, (session.perform now (.read sweep.listing)).1 = .ok (sweep.answer listed)) ∧
      ∀ now later,
        let reply := session.perform now (.write sweep.deletion)
        if session.contended then reply = (.error (.ofDriver "query" .locked), session)
        else
          reply = (.ok (.count listed.length),
            { session with catalog := sweep.without (listed.map sweep.idOf) session.catalog }) ∧
          reply.2.perform later (.write sweep.deletion) = (.ok (.count 0), reply.2)) ∧
    (∀ t₁ t₂ t₃ t₄,
      let one := Event.sweeps [(t₁, .narInfos), (t₂, .narFiles)]
      let other := Event.sweeps [(t₃, .narFiles), (t₄, .narInfos)]
      session.after one = session.after other ∧
        session.results one = (session.results other).reverse) ∧
    (session.contended = false → ∀ job : List (Time.Timestamp × Sweep),
      job.map (·.2) = [.narInfos, .narFiles, .chunks]
        ∨ job.map (·.2) = [.narFiles, .narInfos, .chunks] →
      ∀ (sweep : Sweep) (now : Time.Timestamp),
        ((session.after (Event.sweeps job)).perform now (.read sweep.listing)).1
          = .ok (sweep.answer [])) ∧
    ∀ job : List (Time.Timestamp × Sweep),
      let after := session.after (Event.sweeps job)
      after.catalog.fileLinks = session.catalog.fileLinks ∧
        ∀ link ∈ session.catalog.fileLinks, ∀ now,
          (after.perform now (.read (.chunksOfFile link.narFile))).1
            = (session.perform now (.read (.chunksOfFile link.narFile))).1 := by
  refine ⟨fun sweep => ?_, session.sweeps_comm,
    fun free job hjob => h.listing_after_pass free hjob, session.after_sweeps_keeps⟩
  obtain ⟨listed, hlisted, hids⟩ := exists_listing h.wellFormed.catalog sweep
  refine ⟨listed, fun now => hlisted session.dialect, fun now later => ?_⟩
  dsimp only
  split
  · next contended => exact perform_sweep_of_contended contended now sweep
  · next hfree =>
    have free : session.contended = false := Bool.eq_false_iff.2 hfree
    rw [← List.length_map sweep.idOf, hids, perform_sweep free]
    exact ⟨rfl, perform_sweep_again free later sweep⟩

/-- A NarInfo, a NAR file and a chunk that are linked; one more NarInfo, one more NAR file with a
chunk of its own, and a chunk without a place. -/
theorem sweeps_reach_fixpoint_stranded :
    let session := (fresh .sqlite).after (Event.calls ([
      .createNarInfo (placeholder "x"), .createNarInfo (placeholder "y"),
      .createNarFile ⟨{ hash := "a" }, 10, 0⟩, .createNarFile ⟨{ hash := "b" }, 10, 0⟩,
      .createChunk "c" 10, .createChunk "d" 10, .createChunk "e" 10,
      .linkNarInfoToFile 1 1, .linkFileToChunk 1 1 0, .linkFileToChunk 2 3 0].map
        fun change => (.epoch, .write change)))
    let job : List (Time.Timestamp × Sweep) :=
      [(.epoch, .narInfos), (.epoch, .narFiles), (.epoch, .chunks)]
    let after := session.after (Event.sweeps job)
    session.Reachable ∧ session.contended = false ∧
      (session.perform .epoch (.read .orphanedChunks)).1 = .ok (.chunks [.fresh 2 "d" 10 0]) ∧
      session.results (Event.sweeps job) = [.ok (.count 1), .ok (.count 1), .ok (.count 2)] ∧
      (∀ (sweep : Sweep) (now : Time.Timestamp),
        (after.perform now (.read sweep.listing)).1 = .ok (sweep.answer [])) ∧
      after.catalog.chunks.map (·.id) = [1] ∧
      ∀ now, (after.perform now (.read (.chunksOfFile 1))).1
        = (session.perform now (.read (.chunksOfFile 1))).1 := by
  intro session job after
  have h : session.Reachable := (Reachable.fresh .sqlite).after _
  obtain ⟨-, -, hpass, hkeeps⟩ := h.sweeps_reach_fixpoint
  have horphan :
      (session.perform .epoch (.read .orphanedChunks)).1 = .ok (.chunks [.fresh 2 "d" 10 0]) := by
    change (listed session.catalog.orphanedChunks).map Answer.chunks = _
    rw [Catalog.orphanedChunks, (h.wellFormed.catalog.chunks.filter _).byId_eq]
    decide +kernel
  exact ⟨h, rfl, horphan, by decide +kernel, hpass rfl job (.inl rfl), by decide +kernel,
    (hkeeps job).2 ⟨1, 1⟩ (by decide +kernel)⟩

end Session

end Store

end NarIndex
