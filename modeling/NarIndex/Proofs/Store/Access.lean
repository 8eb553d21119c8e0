import NarIndex.Proofs.Store.Creation
import NarIndex.Proofs.Text.Order

/-!
# NarIndex.Proofs.Store.Access

The ways to a row agree.  What a natural key leads to is what an id leads to; the calls that start
from the hash of a NAR, or from a link, lead to rows that those find too; the counts are counts of
these rows; and a call that creates a row answers with what they find next
(`Session.Reachable.access_paths_agree`).
-/

namespace NarIndex.Store

open Catalog (Value Readable Keepable kept read_kept)

/-! ## calls that yield the row that they merge -/

section merging

variable {context : Context} {catalog after : Catalog} (free : context.contended = false)
include free

/-- A draft that is storable has its row merged and returned. -/
theorem createNarInfo_of_merge {draft : NarInfo.Draft} {row : NarInfo Value}
    (accepted : draft.isStorable)
    (hmerge : Catalog.mergeNarInfo draft.hash draft.details context.now.micros catalog
      = .ok (row, after)) :
    createNarInfo context draft catalog = returned row after := by
  rw [createNarInfo_eq _ _ (NarInfo.Draft.detailsOf_of_isStorable accepted),
    Context.write_ok free hmerge]
  rfl

theorem createNarFile_of_merge {draft : NarFile.Draft} {row : NarFile Value}
    (accepted : draft.isStorable)
    (hmerge : Catalog.mergeNarFile draft.key draft.fileSize.toNat draft.totalChunks.toNat
      context.now.micros catalog = .ok (row, after)) :
    createNarFile context draft catalog = returned row after := by
  obtain ⟨hsize, hchunks⟩ := Bool.and_eq_true_iff.1 accepted
  rw [createNarFile_eq _ _ (storable_of_isStorable hsize _) (storable_of_isStorable hchunks _),
    Context.write_ok free hmerge]
  rfl

theorem createChunk_of_merge {hash : String} {size : UInt32} {row : Chunk Value}
    (hmerge : Catalog.mergeChunk hash size.toNat context.now.micros catalog = .ok (row, after)) :
    createChunk context hash size catalog = returned row after := by
  rw [createChunk_eq, Context.write_ok free hmerge]
  rfl

/-- A setting that gets in is read by its key and returned. -/
theorem createSetting_of_insert {key value : String} {row : Setting Value}
    (hinsert : Catalog.insertSetting key value context.now.micros catalog = .ok ((), after))
    (hfound : after.settingByKey? key = some row) :
    createSetting context key value catalog = returned row after := by
  have hbyKey : settingByKey after key = (Catalog.read row).mapError .ofQuery := by
    rw [settingByKey, hfound]
    rfl
  rw [createSetting, Context.write_ok free hinsert, returned, ← hbyKey]
  rfl

/-- A setting that does not get in changes nothing. -/
theorem createSetting_of_error {key value : String} {error : DriverError}
    (hinsert : Catalog.insertSetting key value context.now.micros catalog = .error error) :
    createSetting context key value catalog
      = (.error (.ofDriver "create_config" error), catalog) := by
  rw [createSetting, Context.write_error free hinsert]
  rfl

end merging

namespace Session

/-! ## what agreement means -/

section agreement

variable (session : Session)

/-- A NarInfo that its id leads to. -/
def HasNarInfo (row : NarInfo Int) : Prop :=
  session.Answers (.narInfoById row.id) (.narInfo row)

/-- A NAR file that its id leads to. -/
def HasNarFile (file : NarFile Int) : Prop :=
  session.Answers (.narFileById file.id) (.narFile file)

/-- A chunk that its id leads to. -/
def HasChunk (chunk : Chunk Int) : Prop :=
  session.Answers (.chunkById chunk.id) (.chunk chunk)

/-- Natural keys and ids lead to the same rows. -/
structure PathsAgree {α κ : Type} (id : α → Int) (key : α → κ) (byKey : κ → Query)
    (byId : Int → Query) (answer : α → Answer) : Prop where
  answersKey : ∀ k row, session.Answers (byKey k) (answer row)
    ↔ key row = k ∧ session.Answers (byId (id row)) (answer row)
  answersId : ∀ n row, session.Answers (byId n) (answer row) → id row = n
  lacksKey : ∀ k, session.Lacks (byKey k)
    ↔ ∀ row, session.Answers (byId (id row)) (answer row) → key row ≠ k
  lacksId : ∀ n, session.Lacks (byId n) ↔ ∀ row, ¬session.Answers (byId n) (answer row)

/-- A call counts the rows that have a property. -/
def Counts {α : Type} (query : Query) (P : α → Prop) : Prop :=
  ∃ rows : List α, rows.Nodup ∧ (∀ row, row ∈ rows ↔ P row) ∧
    session.Answers query (.count rows.length)

/-- Every way to a row leads to what the others lead to. -/
structure AccessPathsAgree : Prop where
  narInfos : session.PathsAgree NarInfo.id NarInfo.hash .narInfoByHash .narInfoById .narInfo
  narFiles : session.PathsAgree NarFile.id NarFile.key .narFileByKey .narFileById .narFile
  chunks : session.PathsAgree Chunk.id Chunk.hash .chunkByHash .chunkById .chunk
  settings : session.PathsAgree Setting.id Setting.key .settingByKey .settingById .setting
  /-- A hash leads nowhere just when it is not among all hashes. -/
  hashes : ∃ hashes, session.Answers .hashes (.texts hashes) ∧
    ∀ hash, session.Lacks (.narInfoByHash hash) ↔ hash ∉ hashes
  /-- Of the stored forms of a NAR, its hash leads to that with the lowest id. -/
  firstForm : ∀ hash file, session.Answers (.narFileByHash hash) (.narFile file)
    ↔ session.HasNarFile file ∧ file.key.hash = hash ∧
        ∀ other, session.HasNarFile other → other.key.hash = hash → file.id ≤ other.id
  noForm : ∀ hash, session.Lacks (.narFileByHash hash)
    ↔ ∀ file, session.HasNarFile file → file.key.hash ≠ hash
  /-- The hashes that belong to a NAR file are those of the NarInfos linked to it. -/
  hashesOfFile : ∀ narFile, ∃ hashes, session.Answers (.hashesOfFile narFile) (.texts hashes) ∧
    hashes.Pairwise (fun a b => Text.bytes a < Text.bytes b) ∧
    (∀ hash ∈ hashes, ∃ row, session.HasNarInfo row ∧ row.hash = hash) ∧
    ∀ row, session.HasNarInfo row →
      (row.hash ∈ hashes ↔ ⟨row.id, narFile⟩ ∈ session.catalog.fileLinks)
  /-- Of the NAR files linked to a NarInfo, that with the lowest id backs it. -/
  backing : ∀ narInfo file, session.Answers (.narFileOfNarInfo narInfo) (.narFile file)
    ↔ session.HasNarFile file ∧ ⟨narInfo, file.id⟩ ∈ session.catalog.fileLinks ∧
        ∀ other, ⟨narInfo, other⟩ ∈ session.catalog.fileLinks → file.id ≤ other
  noBacking : ∀ narInfo, session.Lacks (.narFileOfNarInfo narInfo)
    ↔ ∀ other, ⟨narInfo, other⟩ ∉ session.catalog.fileLinks
  countNarInfos : session.Counts .countNarInfos session.HasNarInfo
  countNarFiles : session.Counts .countNarFiles session.HasNarFile
  countChunks : session.Counts .countChunks session.HasChunk
  countFilesToChunk : session.Counts .countFilesToChunk
    fun file => session.HasNarFile file ∧ file.totalChunks = 0

end agreement

/-! ## ways that agree -/

variable {session : Session}

section tables

variable {ρ : Type → Type} [Readable ρ] [Keepable ρ] {κ : Type} [BEq κ] (access : Access ρ κ)
  (h : session.catalog.WellFormed)
include h

/-- A table that calls reach by key and by id holds a row if its id leads to it. -/
theorem held_iff {r : ρ Int} :
    session.Answers (access.byId (access.id r)) (access.answer r)
      ↔ Held (access.rows session.catalog) r :=
  (access.answers_byId h).trans (and_iff_left rfl)

/-- The ways to a row of one table agree. -/
theorem pathsAgree [LawfulBEq κ] :
    session.PathsAgree access.id access.key access.byKey access.byId access.answer where
  answersKey k row := by
    rw [access.answers_byKey h, held_iff access h, and_comm]
  answersId n row hanswers := ((access.answers_byId h).1 hanswers).2
  lacksKey k := by
    rw [access.lacks_byKey h]
    simp only [held_iff access h]
  lacksId n := by
    rw [access.lacks_byId h]
    simp only [access.answers_byId h, not_and]

/-- A call counts the rows of a table that meet a condition. -/
theorem counts_of_countP {query : Query} {p : ρ Value → Bool} {P : ρ Int → Prop}
    (hquery : query.answer session.dialect session.catalog
      = .ok (.count ((access.rows session.catalog).countP p)))
    (hp : ∀ r, session.Answers (access.byId (access.id r)) (access.answer r) ∧ p (kept r) ↔ P r) :
    session.Counts query P := by
  obtain ⟨rs, hrs, hnodup, hheld, -⟩ := exists_listed_page (access.sound h) p
  refine ⟨rs, hnodup, fun r => ?_, ?_⟩
  · rw [hheld, ← held_iff access h, hp]
  · rw [answers_iff, hquery, List.countP_eq_length_filter, ← hrs, List.length_map]

/-- A call counts the rows of a table. -/
theorem counts_of_length {query : Query} {P : ρ Int → Prop}
    (hquery : query.answer session.dialect session.catalog
      = .ok (.count (access.rows session.catalog).length))
    (hp : ∀ r, session.Answers (access.byId (access.id r)) (access.answer r) ↔ P r) :
    session.Counts query P := by
  have hall : query.answer session.dialect session.catalog
      = .ok (.count ((access.rows session.catalog).countP fun _ => true)) := by
    rw [hquery, List.countP_true]
  exact counts_of_countP access h hall fun r => (and_iff_left rfl).trans (hp r)

end tables

/-! ## NarInfos and links -/

section links

variable (h : session.catalog.WellFormed)
include h

/-- The store has a NarInfo if its table holds it. -/
theorem hasNarInfo_iff {row : NarInfo Int} :
    session.HasNarInfo row ↔ Held session.catalog.narInfos row :=
  held_iff .narInfos h

theorem hasNarFile_iff {file : NarFile Int} :
    session.HasNarFile file ↔ Held session.catalog.narFiles file :=
  held_iff .narFiles h

/-- The hashes of the NarInfos that meet a condition. -/
theorem mem_hashesWhere_iff {p : NarInfo Value → Bool} {hash : String} :
    hash ∈ session.catalog.hashesWhere p
      ↔ ∃ row, session.HasNarInfo row ∧ p (kept row) ∧ row.hash = hash := by
  rw [Catalog.mem_hashesWhere]
  constructor
  · rintro ⟨row, hrow, hp, hhash⟩
    obtain ⟨r, rfl, hrange⟩ := h.narInfos.sound row hrow
    exact ⟨r, (hasNarInfo_iff h).2 ⟨hrow, hrange⟩, hp, hhash⟩
  · rintro ⟨row, hrow, hp, hhash⟩
    exact ⟨kept row, ((hasNarInfo_iff h).1 hrow).1, hp, hhash⟩

/-- The NAR file at the end of a link is there. -/
theorem exists_linked {link : FileLink} (hlink : link ∈ session.catalog.fileLinks) :
    ∃ file, session.HasNarFile file ∧ file.id = link.narFile := by
  obtain ⟨row, hrow, hid⟩ := List.any_eq_true.1 (h.fileLinks.ends_exist link hlink).2
  obtain ⟨r, rfl, hrange⟩ := h.narFiles.sound row hrow
  exact ⟨r, (hasNarFile_iff h).2 ⟨hrow, hrange⟩, eq_of_beq hid⟩

/-- What is true of every NAR file that is linked to a NarInfo is true of every id that is. -/
theorem forall_linked_iff {narInfo : Int} {P : Int → Prop} :
    (∀ file, session.HasNarFile file → ⟨narInfo, file.id⟩ ∈ session.catalog.fileLinks → P file.id)
      ↔ ∀ id, ⟨narInfo, id⟩ ∈ session.catalog.fileLinks → P id := by
  refine ⟨fun hall id hlink => ?_, fun hall file _ => hall file.id⟩
  obtain ⟨file, hfile, rfl⟩ := exists_linked h hlink
  exact hall file hfile hlink

omit h in
theorem isLinked_iff {narInfo narFile : Int} :
    session.catalog.isLinked narInfo narFile ↔ ⟨narInfo, narFile⟩ ∈ session.catalog.fileLinks :=
  List.contains_iff_mem

/-- A hash by which no NarInfo is found is not listed. -/
theorem lacks_narInfoByHash_iff {hash : String} :
    session.Lacks (.narInfoByHash hash) ↔ hash ∉ session.catalog.hashes := by
  have hlacks := (pathsAgree .narInfos h).lacksKey hash
  rw [Catalog.hashes, mem_hashesWhere_iff h]
  refine hlacks.trans ⟨?_, fun hnone row hrow hhash => ?_⟩
  · rintro hnone ⟨row, hrow, -, hhash⟩
    exact hnone row hrow hhash
  · exact hnone ⟨row, hrow, rfl, hhash⟩

/-- The hash of a NarInfo is listed with a NAR file just when they are linked. -/
theorem mem_hashesOfFile_iff {row : NarInfo Int} (hrow : session.HasNarInfo row) {narFile : Int} :
    row.hash ∈ session.catalog.hashesOfFile narFile
      ↔ ⟨row.id, narFile⟩ ∈ session.catalog.fileLinks := by
  rw [Catalog.hashesOfFile, mem_hashesWhere_iff h]
  constructor
  · rintro ⟨other, hother, hlinked, hhash⟩
    obtain rfl : other = row := eq_of_key_eq h.narInfos ((hasNarInfo_iff h).1 hother)
      ((hasNarInfo_iff h).1 hrow) hhash
    exact isLinked_iff.1 hlinked
  · intro hlink
    exact ⟨row, hrow, isLinked_iff.2 hlink, rfl⟩

/-- The first stored form of a NAR. -/
theorem answers_narFileByHash {hash : String} {file : NarFile Int} :
    session.Answers (.narFileByHash hash) (.narFile file)
      ↔ session.HasNarFile file ∧ file.key.hash = hash ∧
          ∀ other, session.HasNarFile other → other.key.hash = hash → file.id ≤ other.id := by
  have hfirst : session.Answers (.narFileByHash hash) (.narFile file) ↔ _ :=
    Access.narFiles.answers_first h rfl
  have hform (form : NarFile Int) : (kept form).key.hash == hash ↔ form.key.hash = hash :=
    beq_iff_eq
  simp only [hasNarFile_iff h, ← hform]
  exact hfirst

/-- No form of a hash is found just if the store has no NAR file of it. -/
theorem lacks_narFileByHash {hash : String} :
    session.Lacks (.narFileByHash hash)
      ↔ ∀ file, session.HasNarFile file → file.key.hash ≠ hash := by
  have hfirst : session.Lacks (.narFileByHash hash) ↔ _ := Access.narFiles.lacks_first h rfl
  simp only [hasNarFile_iff h, ← beq_eq_false_iff_ne]
  exact hfirst

/-- The first NAR file that is linked to a NarInfo. -/
theorem answers_narFileOfNarInfo {narInfo : Int} {file : NarFile Int} :
    session.Answers (.narFileOfNarInfo narInfo) (.narFile file)
      ↔ session.HasNarFile file ∧ ⟨narInfo, file.id⟩ ∈ session.catalog.fileLinks ∧
          ∀ other, ⟨narInfo, other⟩ ∈ session.catalog.fileLinks → file.id ≤ other := by
  have hfirst : session.Answers (.narFileOfNarInfo narInfo) (.narFile file) ↔ _ :=
    Access.narFiles.answers_first h rfl
  rw [← forall_linked_iff h]
  simp only [hasNarFile_iff h, ← isLinked_iff]
  exact hfirst

/-- No file of a NarInfo is found just if no link leaves it. -/
theorem lacks_narFileOfNarInfo {narInfo : Int} :
    session.Lacks (.narFileOfNarInfo narInfo)
      ↔ ∀ other, ⟨narInfo, other⟩ ∉ session.catalog.fileLinks := by
  have hfirst : session.Lacks (.narFileOfNarInfo narInfo) ↔ _ :=
    Access.narFiles.lacks_first h rfl
  refine hfirst.trans (Iff.trans ?_ (forall_linked_iff h (P := fun _ => False)))
  simp only [hasNarFile_iff h, ← isLinked_iff, imp_false, Bool.not_eq_true]
  rfl

omit h in
/-- What a NAR file is that waits to be cut into chunks. -/
theorem isWaiting_kept {file : NarFile Int} :
    Catalog.isWaiting (kept file) ↔ file.totalChunks = 0 := by
  have hchunks : (kept file).totalChunks = .integer file.totalChunks := rfl
  rw [Catalog.isWaiting, hchunks, beq_iff_eq, Value.integer.injEq]

/-- The ways to all rows agree. -/
theorem accessPathsAgree : session.AccessPathsAgree where
  narInfos := pathsAgree .narInfos h
  narFiles := pathsAgree .narFiles h
  chunks := pathsAgree .chunks h
  settings := pathsAgree .settings h
  hashes := ⟨session.catalog.hashes, answers_iff.2 rfl, fun _ => lacks_narInfoByHash_iff h⟩
  firstForm _ _ := answers_narFileByHash h
  noForm _ := lacks_narFileByHash h
  hashesOfFile narFile := by
    refine ⟨session.catalog.hashesOfFile narFile, answers_iff.2 rfl,
      h.narInfos.hashesWhere_ascends, fun hash hhash => ?_, fun row hrow => ?_⟩
    · obtain ⟨row, hrow, -, hrowHash⟩ := (mem_hashesWhere_iff h).1 hhash
      exact ⟨row, hrow, hrowHash⟩
    · exact mem_hashesOfFile_iff h hrow
  backing _ _ := answers_narFileOfNarInfo h
  noBacking _ := lacks_narFileOfNarInfo h
  countNarInfos := counts_of_length .narInfos h rfl fun _ => .rfl
  countNarFiles := counts_of_length .narFiles h rfl fun _ => .rfl
  countChunks := counts_of_length .chunks h rfl fun _ => .rfl
  countFilesToChunk :=
    counts_of_countP .narFiles h rfl fun _ => and_congr_right fun _ => isWaiting_kept

end links

/-! ## rows that calls create -/

section creation

variable (h : session.Reachable) {now : Time.Timestamp}
include h

/-- A call that yields a row of the table that it leaves answers with what the key and the id of the
row lead to next. -/
theorem Reachable.returns_held {ρ : Type → Type} [Readable ρ] [Keepable ρ] {κ : Type} [BEq κ]
    [LawfulBEq κ] (access : Access ρ κ) {change : Change} {row : ρ Value} {after : Catalog} {k : κ}
    (hrun : change.run (session.context now) session.catalog
      = (returned row after).map access.answer)
    (hmem : row ∈ access.rows after) (hkey : access.key row = k) :
    ∃ answer later, session.perform now (.write change) = (.ok answer, later) ∧
      ∃ r, answer = access.answer r ∧ access.key r = k ∧
        later.Answers (access.byKey k) answer ∧
          later.Answers (access.byId (access.id r)) answer := by
  have hnext := (h.handle (.call now (.write change))).wellFormed.catalog
  have hperform : session.perform now (.write change)
      = (((returned row after).map access.answer).1, { session with catalog := after }) := by
    rw [perform, Operation.run, hrun]
    rfl
  rw [Session.handle, hperform] at hnext
  obtain ⟨r, rfl, hrange⟩ := (access.sound hnext).sound row hmem
  rw [access.key_kept] at hkey
  refine ⟨access.answer r, { session with catalog := after }, ?_, r, rfl, hkey, ?_, ?_⟩
  · rw [hperform, returned, read_kept hrange]
    rfl
  · exact (access.answers_byKey hnext).2 ⟨⟨hmem, hrange⟩, hkey⟩
  · exact (access.answers_byId hnext).2 ⟨⟨hmem, hrange⟩, rfl⟩

/-- A NarInfo that was created is found by its hash and by its id. -/
theorem Reachable.creates_narInfo (draft : NarInfo.Draft) :
    Creates session now (.createNarInfo draft) draft.isStorable fun answer later =>
      ∃ row, answer = .narInfo row ∧ row.hash = draft.hash ∧
        later.Answers (.narInfoByHash draft.hash) answer ∧
        later.Answers (.narInfoById row.id) answer := by
  refine creates_of_cases id (fun rejected => ?_) fun free accepted => ?_
  · obtain ⟨text, herror⟩ := createNarInfo_of_not_isStorable rejected
    exact ⟨_, congrArg (·.1.map Answer.narInfo) (herror _ _)⟩
  · obtain ⟨row, after, hmerge⟩ : ∃ row after,
        Catalog.mergeNarInfo draft.hash draft.details now.micros session.catalog
          = .ok (row, after) := ⟨_, _, rfl⟩
    have hcreated : Store.createNarInfo (session.context now) draft session.catalog
        = returned row after := createNarInfo_of_merge free accepted hmerge
    exact h.returns_held .narInfos (congrArg (Outcome.map Answer.narInfo) hcreated)
      (Catalog.mem_of_mergeNarInfo hmerge) (Catalog.hash_of_mergeNarInfo hmerge)

/-- A NAR file that was created is found by its key and by its id. -/
theorem Reachable.creates_narFile (draft : NarFile.Draft) :
    Creates session now (.createNarFile draft) draft.isStorable fun answer later =>
      ∃ file, answer = .narFile file ∧ file.key = draft.key ∧
        later.Answers (.narFileByKey draft.key) answer ∧
        later.Answers (.narFileById file.id) answer := by
  refine creates_of_cases id (fun rejected => ?_) fun free accepted => ?_
  · obtain ⟨text, herror⟩ := createNarFile_of_not_isStorable rejected
    exact ⟨_, congrArg (·.1.map Answer.narFile) (herror _ _)⟩
  · obtain ⟨row, after, hmerge⟩ : ∃ row after,
        Catalog.mergeNarFile draft.key draft.fileSize.toNat draft.totalChunks.toNat now.micros
          session.catalog = .ok (row, after) := ⟨_, _, rfl⟩
    have hcreated : Store.createNarFile (session.context now) draft session.catalog
        = returned row after := createNarFile_of_merge free accepted hmerge
    exact h.returns_held .narFiles (congrArg (Outcome.map Answer.narFile) hcreated)
      (Catalog.mem_of_mergeNarFile hmerge) (Catalog.key_of_mergeNarFile hmerge)

/-- A chunk that was created is found by its hash and by its id. -/
theorem Reachable.creates_chunk (hash : String) (size : UInt32) :
    Creates session now (.createChunk hash size) true fun answer later =>
      ∃ chunk, answer = .chunk chunk ∧ chunk.hash = hash ∧
        later.Answers (.chunkByHash hash) answer ∧ later.Answers (.chunkById chunk.id) answer := by
  refine creates_of_cases id nofun fun free _ => ?_
  obtain ⟨row, after, hmerge⟩ : ∃ row after,
      Catalog.mergeChunk hash size.toNat now.micros session.catalog = .ok (row, after) :=
    ⟨_, _, rfl⟩
  have hcreated : Store.createChunk (session.context now) hash size session.catalog
      = returned row after := createChunk_of_merge free hmerge
  exact h.returns_held .chunks (congrArg (Outcome.map Answer.chunk) hcreated)
    (Catalog.mem_of_mergeChunk hmerge) (Catalog.hash_of_mergeChunk hmerge)

/-- A setting comes in if its key is not taken. -/
theorem Reachable.creates_setting (key value : String) :
    Creates session now (.createSetting key value)
      (!session.catalog.settings.any (·.key == key)) fun answer later =>
        ∃ setting, answer = .setting setting ∧ setting.key = key ∧
          later.Answers (.settingByKey key) answer ∧
          later.Answers (.settingById setting.id) answer := by
  refine creates_of_cases (fun _ => rfl) (fun taken => ?_) fun free absent => ?_
  · rw [Bool.not_eq_false'] at taken
    cases hlock : session.contended with
    | true =>
      have hlocked := @createSetting_of_contended (session.context now) session.catalog hlock
      exact ⟨_, congrArg (·.1.map Answer.setting) (hlocked key value)⟩
    | false =>
      have hinsert : Catalog.insertSetting key value now.micros session.catalog
          = .error (.uniqueViolated "config.key") := if_pos taken
      have herror := @createSetting_of_error (session.context now) session.catalog hlock key value
      exact ⟨_, congrArg (·.1.map Answer.setting) (herror hinsert)⟩
  · rw [Bool.not_eq_true'] at absent
    have hinsert : Catalog.insertSetting key value now.micros session.catalog
        = .ok ((), session.catalog.addSetting key value now.micros) :=
      if_neg (Bool.eq_false_iff.1 absent)
    obtain ⟨row, hmem, hfound⟩ := Catalog.settingByKey?_of_insertSetting hinsert
    have hkey : row.key = key := by simpa using List.find?_some hfound
    have hcreated : Store.createSetting (session.context now) key value session.catalog
        = returned row _ := createSetting_of_insert free hinsert hfound
    exact h.returns_held .settings (congrArg (Outcome.map Answer.setting) hcreated) hmem hkey

end creation

/-- Whatever has happened to a store, every way to a row leads to what the others lead to.

* A NarInfo, a NAR file, a chunk or a setting is found by its natural key just when it is found by
  its id.  The call that goes by the hash of a NAR finds the stored form with the lowest id; the
  hash of a NarInfo is listed with a NAR file just when they are linked; and of the NAR files linked
  to a NarInfo, that with the lowest id backs it.  Each of these calls finds nothing just when there
  is nothing of that kind, and the counts are those of the rows that are found.
* A call that creates a row succeeds if its sizes are storable, for a setting if its key is not
  taken, and if there is no contention; and it answers with the row that its key and its id lead to
  next. -/
theorem Reachable.access_paths_agree (h : session.Reachable) :
    session.AccessPathsAgree ∧
    (∀ now (draft : NarInfo.Draft),
      Creates session now (.createNarInfo draft) draft.isStorable fun answer later =>
        ∃ row, answer = .narInfo row ∧ row.hash = draft.hash ∧
          later.Answers (.narInfoByHash draft.hash) answer ∧
          later.Answers (.narInfoById row.id) answer) ∧
    (∀ now (draft : NarFile.Draft),
      Creates session now (.createNarFile draft) draft.isStorable fun answer later =>
        ∃ file, answer = .narFile file ∧ file.key = draft.key ∧
          later.Answers (.narFileByKey draft.key) answer ∧
          later.Answers (.narFileById file.id) answer) ∧
    (∀ now hash (size : UInt32),
      Creates session now (.createChunk hash size) true fun answer later =>
        ∃ chunk, answer = .chunk chunk ∧ chunk.hash = hash ∧
          later.Answers (.chunkByHash hash) answer ∧ later.Answers (.chunkById chunk.id) answer) ∧
    ∀ now key value,
      Creates session now (.createSetting key value)
        (!session.catalog.settings.any (·.key == key)) fun answer later =>
          ∃ setting, answer = .setting setting ∧ setting.key = key ∧
            later.Answers (.settingByKey key) answer ∧
            later.Answers (.settingById setting.id) answer :=
  ⟨accessPathsAgree h.wellFormed.catalog, fun _ => h.creates_narInfo, fun _ => h.creates_narFile,
    fun _ => h.creates_chunk, fun _ => h.creates_setting⟩

/-- Two NarInfos share the first of two stored forms, after another NAR file has gone. -/
theorem access_paths_agree_shared :
    let session := (fresh .postgres).after (Event.calls [
      (.epoch, .write (.createNarFile ⟨{ hash := "x" }, 1, 0⟩)),
      (.epoch, .write (.createNarFile ⟨{ hash := "a", query := "q" }, 2, 0⟩)),
      (.epoch, .write (.createNarFile ⟨{ hash := "a" }, 3, 0⟩)),
      (.epoch, .write (.createNarInfo (placeholder "h"))),
      (.epoch, .write (.createNarInfo (placeholder "g"))),
      (.epoch, .write (.linkNarInfoToFile 1 3)), (.epoch, .write (.linkNarInfoToFile 1 2)),
      (.epoch, .write (.linkNarInfoToFile 2 2)),
      (.epoch, .write (.deleteNarFileById 1))])
    let form : NarFile Int := .fresh 2 { hash := "a", query := "q" } 2 0 0
    session.Reachable ∧ session.AccessPathsAgree ∧ session.HasNarFile form ∧
      session.Answers (.narFileByHash "a") (.narFile form) ∧
      session.Answers (.narFileOfNarInfo 1) (.narFile form) ∧
      (∃ hashes, session.Answers (.hashesOfFile 2) (.texts hashes) ∧
        "g" ∈ hashes ∧ "h" ∈ hashes) ∧
      session.Lacks (.narFileByHash "x") ∧ session.Lacks (.narFileById 1) := by
  intro session form
  have h : session.Reachable := (Reachable.fresh .postgres).after _
  obtain ⟨hagree, -⟩ := h.access_paths_agree
  have hform : session.HasNarFile form := answers_iff.2 (by decide +kernel)
  have hrows : ∀ row ∈ session.catalog.narFiles, 2 ≤ row.id := by decide +kernel
  have hlinks : ∀ link ∈ session.catalog.fileLinks, 2 ≤ link.narFile := by decide +kernel
  have hfirst : ∀ other, session.HasNarFile other → 2 ≤ other.id := fun other hother =>
    hrows _ ((hasNarFile_iff h.wellFormed.catalog).1 hother).1
  obtain ⟨hashes, hanswers, -, -, hlinked⟩ := hagree.hashesOfFile 2
  have hg := hlinked (.fresh 2 "g" {} 0) (answers_iff.2 (by decide +kernel))
  have hh := hlinked (.fresh 1 "h" {} 0) (answers_iff.2 (by decide +kernel))
  refine ⟨h, hagree, hform, ?_, ?_, ⟨hashes, hanswers, ?_, ?_⟩, ?_, ?_⟩
  · exact (hagree.firstForm "a" form).2 ⟨hform, rfl, fun other hother _ => hfirst other hother⟩
  · exact (hagree.backing 1 form).2 ⟨hform, by decide +kernel, fun other => hlinks ⟨1, other⟩⟩
  · exact hg.2 (by decide +kernel)
  · exact hh.2 (by decide +kernel)
  · exact lacks_iff.2 ⟨"nar file", "x", by decide +kernel⟩
  · exact lacks_iff.2 ⟨"nar file", "1", by decide +kernel⟩

end Session

end NarIndex.Store
