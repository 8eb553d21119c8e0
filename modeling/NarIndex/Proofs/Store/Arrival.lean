import NarIndex.Proofs.Catalog.Arrival
import NarIndex.Proofs.Store.Access

/-!
# NarIndex.Proofs.Store.Arrival

The order in which rows came in, over a whole history.  A chronicle is a store in use with the
journal of its run: what each call has brought in, less what was taken back with a transaction.
Although ids come back, the rows that are there, in the order of their ids, are at every point of
every run in the order of the journal; so the calls that take the lowest id take the row that came
in first (`Chronicle.in_order`).
-/

namespace NarIndex.Store

open Catalog (Value arrived InOrderOfArrival Progresses kept)

/-! ## journals -/

/-- The natural keys of the rows that have come in, in the order in which they did. -/
structure Journal where
  narInfos : List String := []
  narFiles : List NarFile.Key := []
  chunks : List String := []
  settings : List String := []
  deriving DecidableEq, Repr

namespace Journal

/-- The journal after a call, with what has come in. -/
def extend (journal : Journal) (before after : Catalog) : Journal where
  narInfos := journal.narInfos ++ arrived (·.hash) before.narInfos after.narInfos
  narFiles := journal.narFiles ++ arrived (·.key) before.narFiles after.narFiles
  chunks := journal.chunks ++ arrived (·.hash) before.chunks after.chunks
  settings := journal.settings ++ arrived (·.key) before.settings after.settings

/-- The rows of the tables are in the order of the journal. -/
structure Orders (journal : Journal) (catalog : Catalog) : Prop where
  narInfos : InOrderOfArrival (·.hash) catalog.narInfos journal.narInfos
  narFiles : InOrderOfArrival (·.key) catalog.narFiles journal.narFiles
  chunks : InOrderOfArrival (·.hash) catalog.chunks journal.chunks
  settings : InOrderOfArrival (·.key) catalog.settings journal.settings

/-- No rows are in any order. -/
theorem orders_empty : Orders {} {} :=
  ⟨List.Sublist.refl _, List.Sublist.refl _, List.Sublist.refl _, List.Sublist.refl _⟩

/-- What a call brings is put behind what the journal has. -/
theorem Orders.extend {journal : Journal} {before after : Catalog} (h : journal.Orders before)
    (hcall : Progresses before after) : (journal.extend before after).Orders after :=
  ⟨hcall.narInfos.inOrder h.narInfos, hcall.narFiles.inOrder h.narFiles,
    hcall.chunks.inOrder h.chunks, hcall.settings.inOrder h.settings⟩

end Journal

/-! ## chronicles -/

namespace Session

/-- The journal after the steps of a block that are run, with what each of them has brought in. -/
def journalOfSteps (session : Session) (journal : Journal) (tolerant : Bool) :
    List (Time.Timestamp × Step) → Journal
  | [] => journal
  | (now, step) :: steps =>
    let (answer, next) := session.step now step
    let later := journal.extend session.catalog next.catalog
    if answer.isOk || tolerant then next.journalOfSteps later tolerant steps else later

/-- The journal after a block: if it fails, all that it has brought in is taken back. -/
def journalOfBlock (session : Session) (journal : Journal) (block : Block) : Journal :=
  match session.begin, (session.withTransaction block).result with
  | .ok opened, .ok () => opened.journalOfSteps journal block.tolerant block.steps
  | _, _ => journal

end Session

/-- A store in use, with the journal of its run. -/
structure Chronicle where
  session : Session
  journal : Journal := {}
  /-- The journal that the open transaction began with. -/
  saved : Journal := {}

namespace Chronicle

/-- A store that has just been made. -/
def fresh (dialect : Sql.Dialect) : Chronicle :=
  { session := .fresh dialect }

/-- The chronicle after an event.  A transaction that opens keeps the journal, and one that is taken
back returns to it. -/
def handle (chronicle : Chronicle) (event : Event) : Chronicle :=
  let session := chronicle.session
  let next := (session.handle event).2
  match event with
  | .call _ _ =>
    { chronicle with
      session := next, journal := chronicle.journal.extend session.catalog next.catalog }
  | .block block =>
    { chronicle with session := next, journal := session.journalOfBlock chronicle.journal block }
  | .begin =>
    { chronicle with
      session := next, saved := if session.isOpen then chronicle.saved else chronicle.journal }
  | .rollback | .abandon | .reopen =>
    { chronicle with
      session := next
      journal := if session.isOpen && !next.isOpen then chronicle.saved else chronicle.journal }
  | .commit | .endShared | .migrate | .lock | .unlock => { chronicle with session := next }

/-- The chronicle after a history. -/
def after (chronicle : Chronicle) (history : List Event) : Chronicle :=
  history.foldl handle chronicle

/-- The chronicle goes along with the store and does not change it. -/
theorem session_handle (chronicle : Chronicle) (event : Event) :
    (chronicle.handle event).session = (chronicle.session.handle event).2 := by
  cases event <;> rfl

/-- A chronicle is about the very store that the history leads to. -/
theorem session_after (chronicle : Chronicle) (history : List Event) :
    (chronicle.after history).session = chronicle.session.after history := by
  induction history generalizing chronicle with
  | nil => rfl
  | cons event history ih =>
    rw [Session.after_cons, ← session_handle]
    exact ih (chronicle.handle event)

end Chronicle

/-! ## what a run keeps -/

namespace Session

/-- One call brings one row in at most. -/
theorem perform_progresses (session : Session) (now : Time.Timestamp) (operation : Operation) :
    Progresses session.catalog (session.perform now operation).2.catalog :=
  (operation.run_effect (session.context now) session.catalog).progresses

/-- A step within a transaction lets rows go or some come in behind the others. -/
theorem step_progresses {session : Session} (opened : session.isOpen) (now : Time.Timestamp)
    (step : Step) : Progresses session.catalog (session.step now step).2.catalog := by
  cases step with
  | call operation => exact session.perform_progresses now operation
  | begin =>
    rw [step_begin_of_isOpen opened]
    exact .refl _

/-- Within a transaction, at every point of a block, the rows are in the order of the journal. -/
theorem runSteps_orders {session : Session} {journal : Journal} (opened : session.isOpen)
    (h : journal.Orders session.catalog) (tolerant : Bool)
    (steps : List (Time.Timestamp × Step)) :
    (session.journalOfSteps journal tolerant steps).Orders
      (session.runSteps tolerant steps).session.catalog := by
  induction steps generalizing session journal with
  | nil => exact h
  | cons head steps ih =>
    obtain ⟨now, step⟩ := head
    have hlater := h.extend (step_progresses opened now step)
    obtain ⟨catalog, hsession⟩ := step_session opened now step
    have hopen : (session.step now step).2.isOpen := by rwa [hsession]
    rw [journalOfSteps, runSteps]
    cases hstep : session.step now step with
    | mk answer next =>
      rw [hstep] at hlater hopen
      cases answer with
      | ok answer => exact ih hopen hlater
      | error error =>
        cases tolerant with
        | true => exact ih hopen hlater
        | false => exact hlater

end Session

namespace Chronicle

/-- The rows that the handle sees are in the order of the journal, and so were those that the open
transaction began with in that of the journal then. -/
structure Orders (chronicle : Chronicle) : Prop where
  journal : chronicle.journal.Orders chronicle.session.catalog
  saved : ∀ start ∈ chronicle.session.saved, chronicle.saved.Orders start

namespace Orders

variable {chronicle : Chronicle} (h : chronicle.Orders)
include h

/-- A handle that may have given its transaction up returns to the journal with the tables. -/
theorem giveUp {next : Session}
    (hnext : next = chronicle.session ∨ next = chronicle.session.abandon) :
    Orders { chronicle with
      session := next
      journal := if chronicle.session.isOpen && !next.isOpen then chronicle.saved
        else chronicle.journal } := by
  obtain ⟨⟨dialect, catalog, saved, contended⟩, journal, savedJournal⟩ := chronicle
  cases saved with
  | none =>
    obtain rfl : next = ⟨dialect, catalog, none, contended⟩ := by
      rcases hnext with rfl | rfl <;> rfl
    exact ⟨h.journal, nofun⟩
  | some start =>
    rcases hnext with rfl | rfl
    · exact ⟨h.journal, h.saved⟩
    · exact ⟨h.saved start rfl, nofun⟩

theorem begin : (chronicle.handle .begin).Orders := by
  obtain ⟨⟨dialect, catalog, saved, contended⟩, journal, savedJournal⟩ := chronicle
  cases saved with
  | none =>
    refine ⟨h.journal, ?_⟩
    rintro start ⟨⟩
    exact h.journal
  | some start => exact h

theorem commit : (chronicle.handle .commit).Orders := by
  obtain ⟨⟨dialect, catalog, saved, contended⟩, journal, savedJournal⟩ := chronicle
  cases saved with
  | none => exact h
  | some start => exact ⟨h.journal, nofun⟩

theorem rollback : (chronicle.handle .rollback).Orders := by
  refine h.giveUp ?_
  rw [Session.handle, Session.rollback]
  split
  · exact .inr rfl
  · exact .inl rfl

theorem reopen : (chronicle.handle .reopen).Orders := by
  refine h.giveUp ?_
  rw [Session.handle, Session.reopen]
  cases chronicle.session.abandon.migrate with
  | ok done => exact .inr rfl
  | error error => exact .inl rfl

/-- After a block the rows are still in the order of the journal. -/
theorem block (block : Session.Block) : (chronicle.handle (.block block)).Orders := by
  obtain ⟨session, journal, savedJournal⟩ := chronicle
  change Orders ⟨(session.withTransaction block).session, session.journalOfBlock journal block, _⟩
  cases hsaved : session.saved with
  | some start =>
    have hbegin : session.begin = .error .nestedTransaction :=
      Session.begin_of_isOpen (by rw [Session.isOpen, hsaved, Option.isSome_some])
    rw [Session.journalOfBlock, Session.withTransaction, hbegin]
    exact h
  | none =>
    have hsteps := @Session.runSteps_orders (session.within session.catalog) journal rfl h.journal
      block.tolerant block.steps
    rw [Session.journalOfBlock, Session.begin_of_plain hsaved,
      Session.withTransaction_of_plain hsaved]
    cases block.verdict ((session.within session.catalog).runSteps block.tolerant
        block.steps).result with
    | error error => exact h
    | ok done =>
      refine ⟨hsteps, ?_⟩
      rintro start ⟨⟩

/-- Every event keeps the rows in the order of the journal. -/
theorem handle (event : Event) : (chronicle.handle event).Orders := by
  cases event with
  | call now operation =>
    exact ⟨h.journal.extend (chronicle.session.perform_progresses now operation), h.saved⟩
  | block block => exact h.block block
  | begin => exact h.begin
  | commit => exact h.commit
  | rollback => exact h.rollback
  | abandon => exact h.giveUp (.inr rfl)
  | reopen => exact h.reopen
  | endShared | migrate => exact h
  | lock | unlock => exact ⟨h.journal, h.saved⟩

end Orders

theorem orders_fresh (dialect : Sql.Dialect) : (fresh dialect).Orders :=
  ⟨Journal.orders_empty, nofun⟩

/-- So they are after every run. -/
theorem orders_after {chronicle : Chronicle} (h : chronicle.Orders) (history : List Event) :
    (chronicle.after history).Orders := by
  induction history generalizing chronicle with
  | nil => exact h
  | cons event history ih => exact ih (h.handle event)

end Chronicle

/-! ## what calls answer -/

/-- Of all that has a property, the first to come in, as a log of keys tells it. -/
def IsFirst {α κ : Type} [DecidableEq κ] (key : α → κ) (log : List κ) (P : α → Prop) (a : α) :
    Prop :=
  P a ∧ ∀ other, P other → other ≠ a → [key a, key other].Sublist log.dedup

namespace Session

/-- The rows of a store are in the order in which they came in, and so are the answers of the calls
that go by the ids of NAR files.  A journal tells the order. -/
structure InOrder (session : Session) (journal : Journal) : Prop where
  narInfos : (Catalog.byId NarInfo.id session.catalog.narInfos).map NarInfo.hash
    = journal.narInfos.dedup.filter (· ∈ session.catalog.narInfos.map NarInfo.hash)
  narFiles : (Catalog.byId NarFile.id session.catalog.narFiles).map NarFile.key
    = journal.narFiles.dedup.filter (· ∈ session.catalog.narFiles.map NarFile.key)
  chunks : (Catalog.byId Chunk.id session.catalog.chunks).map Chunk.hash
    = journal.chunks.dedup.filter (· ∈ session.catalog.chunks.map Chunk.hash)
  settings : (Catalog.byId Setting.id session.catalog.settings).map Setting.key
    = journal.settings.dedup.filter (· ∈ session.catalog.settings.map Setting.key)
  /-- The hash of a NAR leads to the stored form that came in first. -/
  firstForm : ∀ hash file, session.Answers (.narFileByHash hash) (.narFile file)
    ↔ IsFirst NarFile.key journal.narFiles
        (fun file => session.HasNarFile file ∧ file.key.hash = hash) file
  /-- Of the NAR files linked to a NarInfo, the one that came in first backs it. -/
  backing : ∀ narInfo file, session.Answers (.narFileOfNarInfo narInfo) (.narFile file)
    ↔ IsFirst NarFile.key journal.narFiles
        (fun file =>
          session.HasNarFile file ∧ ⟨narInfo, file.id⟩ ∈ session.catalog.fileLinks) file
  /-- Of the NAR files that wait to be cut into chunks, those that came in first are listed, as many
  as are asked for.  The largest number that can be asked for is the largest integer that a column
  can hold, and so it is no bound where ids fit into a column. -/
  filesToChunk : ∃ waiting : List NarFile.Key, waiting.Sublist journal.narFiles.dedup ∧
    (∀ key, key ∈ waiting
      ↔ ∃ file, session.HasNarFile file ∧ file.totalChunks = 0 ∧ file.key = key) ∧
    ∀ limit, ∃ files, session.Answers (.filesToChunk limit) (.narFiles files) ∧
      files.map NarFile.key = waiting.take (clamped limit) ∧
      ((∀ file, session.HasNarFile file → file.id ≤ Catalog.maxInteger) →
        files.map NarFile.key = waiting.take limit.toNat)

section answers

variable {session : Session} {journal : Journal} (h : session.catalog.WellFormed)
  (orders : journal.Orders session.catalog)
include h orders

/-- Going by ids, the first NAR file that has a property is the first to have come in. -/
theorem isFirst_iff {P : NarFile Int → Prop} (hP : ∀ file, P file → session.HasNarFile file)
    {file : NarFile Int} :
    IsFirst NarFile.key journal.narFiles P file
      ↔ P file ∧ ∀ other, P other → file.id ≤ other.id := by
  refine and_congr_right fun hfile => forall_congr' fun other => forall_congr' fun hother => ?_
  have hfileHeld := (hasNarFile_iff h).1 (hP file hfile)
  have hotherHeld := (hasNarFile_iff h).1 (hP other hother)
  by_cases hsame : other = file
  · simp [hsame]
  · have hkept : kept other ≠ kept file := fun heq =>
      hsame (eq_of_kept_eq hotherHeld.2 hfileHeld.2 heq)
    have horder := orders.narFiles.id_le_iff h.narFiles.toKeyed hfileHeld.1 hotherHeld.1 hkept
    exact (forall_prop_of_true hsame).trans horder.symm

/-- The NAR files that wait are listed in the order in which they came in, as many as are asked
for. -/
theorem answers_filesToChunk :
    ∃ waiting : List NarFile.Key, waiting.Sublist journal.narFiles.dedup ∧
      (∀ key, key ∈ waiting
        ↔ ∃ file, session.HasNarFile file ∧ file.totalChunks = 0 ∧ file.key = key) ∧
      ∀ limit, ∃ files, session.Answers (.filesToChunk limit) (.narFiles files) ∧
        files.map NarFile.key = waiting.take (clamped limit) ∧
        ((∀ file, session.HasNarFile file → file.id ≤ Catalog.maxInteger) →
          files.map NarFile.key = waiting.take limit.toNat) := by
  obtain ⟨rs, hkept, -, hmem, hlisted⟩ := exists_listed_page h.narFiles Catalog.isWaiting
  have hkeys : rs.map NarFile.key
      = (session.catalog.narFiles.filter Catalog.isWaiting).map NarFile.key := by
    rw [← hkept, List.map_map]
    rfl
  refine ⟨rs.map NarFile.key, ?_, fun key => ?_, fun limit => ⟨rs.take (clamped limit), ?_, ?_, ?_⟩⟩
  · rw [hkeys]
    exact (List.filter_sublist.map _).trans orders.narFiles
  · rw [List.mem_map]
    refine exists_congr fun file => ?_
    rw [hmem, isWaiting_kept, hasNarFile_iff h, and_assoc]
  · exact answers_iff.2 (congrArg (Except.map Answer.narFiles) (hlisted (clamped limit)))
  · exact List.map_take
  · intro hids
    have hrows : (session.catalog.narFiles.length : Int) ≤ Catalog.maxInteger :=
      h.narFiles.toKeyed.length_le (by decide)
        ((forall_held h.narFiles).1 fun r hr => hids r ((hasNarFile_iff h).2 hr))
    have hfilter := List.length_filter_le Catalog.isWaiting session.catalog.narFiles
    have hlength := congrArg List.length hkept
    rw [List.length_map] at hlength
    rw [List.map_take, List.take_eq_take_iff, List.length_map, clamped]
    omega

/-- What the order of a journal means for the calls. -/
theorem inOrder_of_orders : session.InOrder journal where
  narInfos := orders.narInfos.keys_byId h.narInfos.toKeyed
  narFiles := orders.narFiles.keys_byId h.narFiles.toKeyed
  chunks := orders.chunks.keys_byId h.chunks.toKeyed
  settings := orders.settings.keys_byId h.settings.toKeyed
  firstForm hash file := by
    rw [isFirst_iff h orders fun _ => And.left, answers_narFileByHash h, and_assoc]
    simp only [and_imp]
  backing narInfo file := by
    rw [isFirst_iff h orders fun _ => And.left, answers_narFileOfNarInfo h, and_assoc,
      ← forall_linked_iff h]
    simp only [and_imp]
  filesToChunk := answers_filesToChunk h orders

end answers

end Session

/-! ## every run -/

namespace Chronicle

/-- The order of ids is the order in which rows came in.  Take any run of a store from empty
tables, whatever the clock shows, and at any point of it the rows that are there: NarInfos, NAR
files, chunks and settings, each in the order of their ids.  They are in the order in which they
came in in this run, where what was taken back with a transaction does not count.  So the calls
that go by the lowest id lead to the NAR file that came in first.

That is so after every history, and also within the blocks of a history, after any of their steps.
The order is well defined, since no call brings in more than one row of a table. -/
theorem in_order (dialect : Sql.Dialect) (history : List Event) :
    let chronicle := (fresh dialect).after history
    let session := chronicle.session
    session = (Session.fresh dialect).after history ∧
      session.InOrder chronicle.journal ∧
      (∀ opened tolerant steps, session.begin = .ok opened →
        (opened.runSteps tolerant steps).session.InOrder
          (opened.journalOfSteps chronicle.journal tolerant steps)) ∧
      ∀ now operation,
        Progresses session.catalog (session.perform now operation).2.catalog := by
  intro chronicle session
  have hsession : session = (Session.fresh dialect).after history :=
    (fresh dialect).session_after history
  have hreachable : session.Reachable := by
    rw [hsession]
    exact (Session.Reachable.fresh dialect).after history
  have horders : chronicle.Orders := orders_after (orders_fresh dialect) history
  refine ⟨hsession, Session.inOrder_of_orders hreachable.wellFormed.catalog horders.journal, ?_,
    session.perform_progresses⟩
  intro opened tolerant steps hopened
  have hwell := (hreachable.wellFormed.begin hopened).runSteps .edit tolerant steps
  obtain ⟨hopen, hcatalog⟩ : opened.isOpen ∧ opened.catalog = session.catalog := by
    unfold Session.begin at hopened
    split at hopened
    · contradiction
    · cases hopened
      exact ⟨rfl, rfl⟩
  refine Session.inOrder_of_orders hwell.catalog (Session.runSteps_orders hopen ?_ tolerant steps)
  rw [hcatalog]
  exact horders.journal

/-- An id comes back, a NAR file comes in again, and what a block that fails brings in is taken
back, while the clock goes back. -/
theorem in_order_reused :
    let late : Time.Timestamp := ⟨5, by decide, by decide⟩
    let create (hash : String) : Operation := .write (.createNarFile ⟨{ hash }, 1, 0⟩)
    let history : List Event := [
      .call late (create "a"), .call .epoch (create "b"),
      .call .epoch (.write (.deleteNarFileById 2)), .call .epoch (create "c"),
      .call .epoch (.write (.deleteNarFileById 1)), .call .epoch (create "a"),
      .block { steps := [(.epoch, .call (create "d"))], abort := some "enough" }]
    let chronicle := (fresh .sqlite).after history
    chronicle.journal.narFiles.map (·.hash) = ["a", "b", "c", "a"] ∧
      chronicle.session.catalog.narFiles.map (fun row => (row.id, row.key.hash))
        = [(2, "c"), (3, "a")] ∧
      chronicle.session.InOrder chronicle.journal ∧
      ∃ opened, chronicle.session.begin = .ok opened ∧
        (opened.journalOfSteps chronicle.journal false [(late, .call (create "d"))]).narFiles.map
          (·.hash) = ["a", "b", "c", "a", "d"] ∧
        (opened.runSteps false [(late, .call (create "d"))]).session.InOrder
          (opened.journalOfSteps chronicle.journal false [(late, .call (create "d"))]) := by
  intro late create history chronicle
  obtain ⟨-, horder, hwithin, -⟩ := in_order .sqlite history
  have hplain : chronicle.session.saved = none := by decide +kernel
  have hopened := Session.begin_of_plain hplain
  exact ⟨by decide +kernel, by decide +kernel, horder, _, hopened, by decide +kernel,
    hwithin _ false [(late, .call (create "d"))] hopened⟩

end Chronicle

end NarIndex.Store
