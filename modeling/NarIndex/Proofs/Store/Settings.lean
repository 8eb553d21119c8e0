import NarIndex.Proofs.Store.Access
import NarIndex.Proofs.Store.Account
import NarIndex.Proofs.Store.Scope

/-!
# NarIndex.Proofs.Store.Settings

Settings as a map.  What is kept under a key is told by the calls that have put values there, and by
nothing else (`settingByKey?_replay`): the value is the last one, while the id and the time of
creation are those of the first.  So it is over every run, whatever else is called between, and
whatever is taken back (`Account.settings_refine`).
-/

namespace NarIndex

open Catalog (Value InRange kept nextId)

/-! ## what values come to -/

/-- A value that is put under a key. -/
structure Assignment where
  value : String
  now : Time.Timestamp
  /-- The id of the setting, if it comes in now. -/
  id : Int

namespace Assignment

/-- The setting of a key that values were put under, the last of which stands first.  It has come in
with the first value, and has been overwritten with each later one. -/
def setting? (key : String) : List Assignment → Option (Setting Int)
  | [] => none
  | last :: earlier =>
    let first := earlier.getLastD last
    some ⟨first.id, key, last.value, first.now.micros,
      if earlier.isEmpty then none else some last.now.micros⟩

/-- What a value does to the setting that is there, if any. -/
def onto {ν : Type} (assignment : Assignment) (key : String) (now : ν) :
    Option (Setting ν) → Setting ν
  | none => .fresh assignment.id key assignment.value now
  | some row => row.overwritten assignment.value now

theorem setting?_cons (key : String) (next : Assignment) (earlier : List Assignment) :
    setting? key (next :: earlier)
      = some (next.onto key next.now.micros (setting? key earlier)) := by
  cases earlier with
  | nil => rfl
  | cons last earlier => cases earlier <;> rfl

/-- A key has no setting just if nothing is assigned to it. -/
theorem setting?_eq_none {key : String} {assignments : List Assignment} :
    setting? key assignments = none ↔ assignments = [] := by
  cases assignments <;> simp [setting?]

/-- A setting has the key that it was assigned under. -/
theorem key_of_setting? {key : String} {assignments : List Assignment} {row : Setting Int}
    (h : setting? key assignments = some row) : row.key = key := by
  cases assignments with
  | nil => contradiction
  | cons last earlier =>
    cases h
    rfl

/-- The times of a setting are those of calls, which are within the calendar. -/
theorem inRange_setting? {key : String} {assignments : List Assignment} {row : Setting Int}
    (h : setting? key assignments = some row) : InRange row := by
  cases assignments with
  | nil => contradiction
  | cons last earlier =>
    cases h
    refine ⟨Catalog.inCalendar_micros _, ?_⟩
    cases earlier with
    | nil => exact nofun
    | cons => exact Catalog.inCalendar_of_mem_some last.now

theorem kept_onto (assignment : Assignment) (key : String) (row? : Option (Setting Int)) :
    kept (assignment.onto key assignment.now.micros row?)
      = assignment.onto key (.integer assignment.now.micros) (row?.map kept) := by
  cases row? <;> rfl

end Assignment

/-! ## statements -/

namespace Catalog

/-- The value that a statement puts under a key. -/
def assignment (catalog : Catalog) (value : String) (now : Time.Timestamp) : Assignment :=
  ⟨value, now, nextId (catalog.settings.map (·.id))⟩

/-- A value is put onto the setting that is there, or comes in with a new one. -/
theorem exists_mergeSetting (catalog : Catalog) (key value : String) (now : Time.Timestamp) :
    ∃ after, mergeSetting key value now.micros catalog = .ok ((), after) ∧
      after.settingByKey? key
        = some ((catalog.assignment value now).onto key (.integer now.micros)
            (catalog.settingByKey? key)) := by
  cases hfound : catalog.settingByKey? key with
  | none =>
    exact ⟨_, mergeSetting_of_none hfound value _, settingByKey?_addSetting hfound value _⟩
  | some row =>
    exact ⟨_, mergeSetting_of_some hfound value _, settingByKey?_overwritten hfound value _⟩

end Catalog

/-! ## calls -/

namespace Store

open Call (replay)

/-- The value that a call is to put under a key. -/
def Operation.assigned? (key : String) : Operation → Option String
  | .write (.setSetting k value) | .write (.createSetting k value) =>
    if k = key then some value else none
  | _ => none

section calls

variable {context : Context} {catalog : Catalog} {key : String}

/-- Two kinds of calls assign a value to a key. -/
theorem Operation.eq_of_assigned? {operation : Operation} {value : String}
    (h : operation.assigned? key = some value) :
    operation = .write (.setSetting key value) ∨ operation = .write (.createSetting key value) := by
  cases operation with
  | read query => contradiction
  | write change =>
    cases change with
    | setSetting k v | createSetting k v => simp_all [assigned?]
    | _ => contradiction

/-- A call that puts nothing under a key leaves it alone. -/
theorem settingByKey?_of_unassigned {operation : Operation} (h : operation.assigned? key = none) :
    (operation.run context catalog).2.settingByKey? key = catalog.settingByKey? key := by
  refine (operation.run_inScope context catalog).settings key fun hscope => ?_
  cases operation with
  | read query => contradiction
  | write change =>
    cases change with
    | setSetting k v | createSetting k v =>
      rw [Operation.assigned?, if_pos (Option.some.inj hscope)] at h
      contradiction
    | _ => contradiction

/-- A key that is new gets its setting. -/
theorem createSetting_of_none (free : context.contended = false)
    (absent : catalog.settingByKey? key = none) (value : String) :
    createSetting context key value catalog
      = (.ok (.fresh (nextId (catalog.settings.map (·.id))) key value context.now.micros),
          catalog.addSetting key value context.now.micros) := by
  have hinsert := Catalog.insertSetting_of_none absent value context.now.micros
  have hrange := Setting.inRange_fresh (nextId (catalog.settings.map (·.id))) key value context.now
  have hfound := Catalog.settingByKey?_addSetting absent value context.now.micros
  rw [createSetting_of_insert free hinsert hfound]
  exact congrArg (·.mapError StoreError.ofQuery, _) (Catalog.read_kept hrange)

/-- A key that is taken keeps its setting, and the call fails. -/
theorem createSetting_of_some (free : context.contended = false) {row : Setting Value}
    (present : catalog.settingByKey? key = some row) (value : String) :
    createSetting context key value catalog
      = (.error (.ofDriver "create_config" (.uniqueViolated "config.key")), catalog) :=
  createSetting_of_error free (Catalog.insertSetting_of_some present value _)

/-- A call that puts a value under a key does so, or fails and changes nothing. -/
theorem run_assigned {operation : Operation} {value : String}
    (h : operation.assigned? key = some value) (context : Context) (catalog : Catalog) :
    (∃ answer after, operation.run context catalog = (.ok answer, after) ∧
      after.settingByKey? key
        = some ((catalog.assignment value context.now).onto key (.integer context.now.micros)
            (catalog.settingByKey? key))) ∨
    ∃ error, operation.run context catalog = (.error error, catalog) := by
  rcases Operation.eq_of_assigned? h with rfl | rfl
  · cases hlock : context.contended with
    | true =>
      have hlocked := Context.write_of_contended hlock "set_config"
        (Catalog.mergeSetting key value context.now.micros) catalog
      exact .inr ⟨_, congrArg silent hlocked⟩
    | false =>
      obtain ⟨after, hmerge, hafter⟩ := catalog.exists_mergeSetting key value context.now
      have hwrite := Context.write_ok hlock hmerge "set_config"
      exact .inl ⟨.done, after, congrArg silent hwrite, hafter⟩
  · cases hlock : context.contended with
    | true =>
      have hlocked := @createSetting_of_contended context catalog hlock key value
      exact .inr ⟨_, congrArg (Outcome.map Answer.setting) hlocked⟩
    | false =>
      cases hfound : catalog.settingByKey? key with
      | none =>
        have hcreated := createSetting_of_none hlock hfound value
        exact .inl ⟨_, _, congrArg (Outcome.map Answer.setting) hcreated,
          Catalog.settingByKey?_addSetting hfound value context.now.micros⟩
      | some row =>
        have hrefused := createSetting_of_some hlock hfound value
        exact .inr ⟨_, congrArg (Outcome.map Answer.setting) hrefused⟩

end calls

namespace Call

/-- The values that calls have put under a key, the last of which stands first.  Calls that have
failed have put nothing there. -/
def assignments (key : String) : List Call → List Assignment
  | [] => []
  | call :: calls =>
    match call.operation.assigned? key, (call.run (replay calls)).1 with
    | some value, .ok _ =>
      (replay calls).assignment value call.context.now :: assignments key calls
    | _, _ => assignments key calls

/-- What is found under a key is what the values come to that were put there. -/
theorem settingByKey?_replay (key : String) (calls : List Call) :
    (replay calls).settingByKey? key
      = (Assignment.setting? key (assignments key calls)).map kept := by
  induction calls with
  | nil => rfl
  | cons call calls ih =>
    rw [replay_cons, assignments]
    cases hassigned : call.operation.assigned? key with
    | none =>
      rw [← ih]
      exact settingByKey?_of_unassigned hassigned
    | some value =>
      rcases run_assigned hassigned call.context (replay calls) with
        ⟨answer, after, hrun, hafter⟩ | ⟨error, hrun⟩
      · rw [run, hrun, hafter, Assignment.setting?_cons, Option.map_some, ih]
        exact congrArg some (Assignment.kept_onto _ key _).symm
      · rw [run, hrun]
        exact ih

-- what is taken back does not count
example :
    let put (value : String) : Event := .call .epoch (.write (.setSetting "k" value))
    let account := (Account.fresh .sqlite).after [put "a", .begin, put "b", .rollback, put "c"]
    (assignments "k" account.calls).map (·.value) = ["c", "a"] := by
  decide

end Call

/-! ## sessions -/

namespace Session

/-- Settings are kept as the calls tell that have put values under their keys. -/
structure SettingsRefine (session : Session) (calls : List Call) : Prop where
  /-- A key leads to the setting that its values come to, and so does the id of the setting. -/
  present : ∀ key row, Assignment.setting? key (Call.assignments key calls) = some row →
    session.Answers (.settingByKey key) (.setting row) ∧
      session.Answers (.settingById row.id) (.setting row)
  /-- A key leads nowhere if no value was put there. -/
  absent : ∀ key, Call.assignments key calls = [] → ∀ now,
    session.perform now (.read (.settingByKey key)) = (.error (.notFound "config" key), session)
  /-- A value can be set if there is no contention. -/
  sets : ∀ key value now,
    (session.perform now (.write (.setSetting key value))).1.isOk ↔ session.contended = false
  /-- A setting can be created if moreover its key is not taken. -/
  creates : ∀ key value now,
    (session.perform now (.write (.createSetting key value))).1.isOk
      ↔ session.contended = false ∧ Call.assignments key calls = []
  /-- If it cannot, nothing changes; and without contention the error is that of a taken key. -/
  refuses : ∀ key value now error,
    (session.perform now (.write (.createSetting key value))).1 = .error error →
      (session.perform now (.write (.createSetting key value))).2 = session ∧
        (session.contended = false → error.isDuplicateKey)
  /-- A call that puts no value under a key changes neither what the key leads to nor what the id of
  the setting leads to. -/
  others : ∀ key now (operation : Operation), operation.assigned? key = none →
    let later := (session.perform now operation).2
    (∀ time, (later.perform time (.read (.settingByKey key))).1
      = (session.perform time (.read (.settingByKey key))).1) ∧
    ∀ row, session.Answers (.settingByKey key) (.setting row) →
      later.Answers (.settingById row.id) (.setting row)

variable {session : Session} {calls : List Call} (h : session.catalog = replay calls)
  {key : String}
include h

/-- What is found under a key is what the assignments to it make. -/
theorem settingByKey?_eq (key : String) : session.catalog.settingByKey? key
    = (Assignment.setting? key (Call.assignments key calls)).map kept := by
  rw [h, Call.settingByKey?_replay]

theorem settingByKey?_eq_none :
    session.catalog.settingByKey? key = none ↔ Call.assignments key calls = [] := by
  rw [settingByKey?_eq h, Option.map_eq_none_iff, Assignment.setting?_eq_none]

/-- A setting that was assigned is found by its key and by its id. -/
theorem answers_of_setting? {row : Setting Int}
    (hrow : Assignment.setting? key (Call.assignments key calls) = some row) :
    session.Answers (.settingByKey key) (.setting row) ∧
      session.Answers (.settingById row.id) (.setting row) := by
  have hformed := wellFormed_of_replay h
  have hfound : session.catalog.settingByKey? key = some (kept row) := by
    rw [settingByKey?_eq h, hrow, Option.map_some]
  have hheld : Held session.catalog.settings row :=
    ⟨List.mem_of_find?_eq_some hfound, Assignment.inRange_setting? hrow⟩
  exact ⟨(Access.settings.answers_byKey hformed).2 ⟨hheld, Assignment.key_of_setting? hrow⟩,
    (Access.settings.answers_byId hformed).2 ⟨hheld, rfl⟩⟩

/-- A key without assignments is not found. -/
theorem perform_settingByKey_of_nil (hnone : Call.assignments key calls = [])
    (now : Time.Timestamp) :
    session.perform now (.read (.settingByKey key))
      = (.error (.notFound "config" key), session) := by
  have hfound := (settingByKey?_eq_none h).2 hnone
  have hanswer : settingByKey session.catalog key = .error (.notFound "config" key) := by
    rw [settingByKey, hfound]
    rfl
  exact congrArg
    (fun found : Except StoreError (Setting Int) => (found.map Answer.setting, session)) hanswer

/-- A call to create a setting succeeds if the key is not taken; otherwise it fails and changes
nothing. -/
theorem perform_createSetting (value : String) (now : Time.Timestamp) :
    let operation : Operation := .write (.createSetting key value)
    (session.contended = false ∧ Call.assignments key calls = [] ∧
      (session.perform now operation).1.isOk) ∨
    (session.contended = false ∧ Call.assignments key calls ≠ [] ∧
      ∃ error, session.perform now operation = (.error error, session) ∧ error.isDuplicateKey) ∨
    (session.contended = true ∧
      ∃ error, session.perform now operation = (.error error, session)) := by
  intro operation
  cases hlock : session.contended with
  | true =>
    have hlocked := @createSetting_of_contended (session.context now) session.catalog hlock
    refine .inr (.inr ⟨rfl, .ofDriver "create_config" .locked, ?_⟩)
    rw [perform, Operation.run, Change.run, hlocked]
    rfl
  | false =>
    cases hfound : session.catalog.settingByKey? key with
    | none =>
      have hcreated := @createSetting_of_none (session.context now) session.catalog key hlock hfound
      refine .inl ⟨rfl, (settingByKey?_eq_none h).1 hfound, ?_⟩
      rw [perform, Operation.run, Change.run, hcreated]
      rfl
    | some row =>
      have hrefused := @createSetting_of_some (session.context now) session.catalog key hlock row
        hfound
      have hsome : Call.assignments key calls ≠ [] := by
        rw [ne_eq, ← settingByKey?_eq_none h, hfound]
        exact Option.some_ne_none row
      have hkind := isDuplicateKey_uniqueViolated "create_config" "config.key"
      refine .inr (.inl ⟨rfl, hsome, _, ?_, hkind⟩)
      rw [perform, Operation.run, Change.run, hrefused]
      rfl

omit h in
/-- A call to set a value succeeds if there is no contention. -/
theorem isOk_setSetting (value : String) (now : Time.Timestamp) :
    (session.perform now (.write (.setSetting key value))).1.isOk ↔ session.contended = false := by
  rw [perform_fst, Operation.run, Change.run]
  cases hlock : session.contended with
  | true =>
    rw [Context.write_of_contended hlock]
    exact iff_of_false Bool.false_ne_true Bool.false_ne_true.symm
  | false =>
    obtain ⟨after, hmerge, -⟩ := session.catalog.exists_mergeSetting key value now
    have hwrite := @Context.write_ok _ (session.context now) _ _ _ _ hlock hmerge "set_config"
    exact iff_of_true (congrArg (fun outcome => (silent outcome).1.isOk) hwrite) rfl

/-- The settings of a store are the map that its calls make. -/
theorem settingsRefine : session.SettingsRefine calls where
  present _ _ hrow := answers_of_setting? h hrow
  absent _ hnone now := perform_settingByKey_of_nil h hnone now
  sets _ value now := isOk_setSetting value now
  creates key value now := by
    rcases perform_createSetting h value now with
      ⟨hfree, hnone, hok⟩ | ⟨-, hsome, error, hfails, -⟩ | ⟨hlock, error, hfails⟩
    · exact iff_of_true hok ⟨hfree, hnone⟩
    · rw [hfails]
      exact iff_of_false Bool.false_ne_true fun hboth => hsome hboth.2
    · rw [hfails, hlock]
      exact iff_of_false Bool.false_ne_true nofun
  refuses key value now error herror := by
    rcases perform_createSetting h value now with
      ⟨-, -, hok⟩ | ⟨-, -, other, hfails, hkind⟩ | ⟨hlock, other, hfails⟩
    · rw [herror] at hok
      contradiction
    · rw [hfails] at herror ⊢
      cases herror
      exact ⟨rfl, fun _ => hkind⟩
    · rw [hfails, hlock]
      exact ⟨rfl, nofun⟩
  others key now operation hnone := by
    intro later
    have hsame : later.catalog.settingByKey? key = session.catalog.settingByKey? key :=
      settingByKey?_of_unassigned hnone
    have hbyKey (time : Time.Timestamp) : (later.perform time (.read (.settingByKey key))).1
        = (session.perform time (.read (.settingByKey key))).1 :=
      congrArg (fun row? => (found "config" key row?).map Answer.setting) hsame
    refine ⟨hbyKey, fun row hrow => ?_⟩
    have hformed := wellFormed_of_replay (replay_call h now operation)
    have hheld : Held later.catalog.settings row ∧ row.key = key :=
      (Access.settings.answers_byKey hformed).1 fun time => (hbyKey time).trans (hrow time)
    exact (Access.settings.answers_byId hformed).2 ⟨hheld.1, rfl⟩

end Session

/-! ## every run -/

/-- Settings are a map, over every run of a store from empty tables.  After any history, and within
its blocks after any of their steps, a key leads to the value that was put there last, by a call
that has succeeded and was not taken back; and to nothing, if there was none.  The id and the time
of creation are those of the first value, and the time of change is that of the last one, unless it
is the first.  The id leads to the same setting.  A call to set a value succeeds just when there is
no contention, and a call to create a setting just when moreover the key is not taken; otherwise it
changes nothing, and its error is that of a taken key, unless it was contention.  No other call than
those that put a value under the key changes any of that. -/
theorem Account.settings_refine (dialect : Sql.Dialect) (history : List Event) :
    let account := (fresh dialect).after history
    account.session = (Session.fresh dialect).after history ∧
      account.session.SettingsRefine account.calls ∧
      ∀ opened tolerant steps, account.session.begin = .ok opened →
        (opened.runSteps tolerant steps).session.SettingsRefine
          (opened.callsOfSteps account.calls tolerant steps) :=
  throughout (fun _ _ => Session.settingsRefine) dialect history

end Store

end NarIndex
