import NarIndex.Proofs.Catalog.Lifecycle
import NarIndex.Proofs.Catalog.Total
import NarIndex.Proofs.Store.Access
import NarIndex.Proofs.Store.Account
import NarIndex.Proofs.Store.Scope

/-!
# NarIndex.Proofs.Store.Sizes

What is stored, added up over whole runs.  The size of a NAR file is that which came with the call
that brought the file in, and of a chunk likewise (`Call.lastSize?_of_mem`): by the calls that have
come since, none could give the row another size without letting it go.  So the totals are those of
these sizes, as far as they can be added up (`Account.sizes_add_up`).
-/

namespace NarIndex.Store

open Catalog (Value Readable Keepable Effect KeepsOrigins keptSizes kept maxInteger)
open Call (replay)

/-! ## the size that a row came in with -/

namespace Operation

/-- The NAR file that a call is to create, with its size. -/
def createdFile? : Operation → Option (NarFile.Key × Nat)
  | .write (.createNarFile draft) => some (draft.key, draft.fileSize.toNat)
  | _ => none

/-- The chunk that a call is to create, with its size. -/
def createdChunk? : Operation → Option (String × Nat)
  | .write (.createChunk hash size) => some (hash, size.toNat)
  | _ => none

end Operation

namespace Call

variable {κ : Type} [DecidableEq κ]

/-- The size in the call that brought in the row of a key the last time, if it was a call to create
it.  Calls to create a row that is there already do not count, nor those that have failed. -/
def lastSize? (created? : Operation → Option (κ × Nat)) (keys : Catalog → List κ) (key : κ) :
    List Call → Option Nat
  | [] => none
  | call :: calls =>
    if key ∉ keys (replay calls) ∧ key ∈ keys (replay (call :: calls)) then
      ((created? call.operation).filter (·.1 = key)).map (·.2)
    else lastSize? created? keys key calls

/-- The size of a NAR file, as it was given to the call that brought it in the last time. -/
def fileSize? (calls : List Call) (key : NarFile.Key) : Option Nat :=
  lastSize? Operation.createdFile? (fun catalog => catalog.narFiles.map (·.key)) key calls

/-- The size of a chunk, as it was given to the call that brought it in the last time. -/
def chunkSize? (calls : List Call) (hash : String) : Option Nat :=
  lastSize? Operation.createdChunk? (fun catalog => catalog.chunks.map (·.hash)) hash calls

section rows

variable {α : Type} (rows : Catalog → List α) {key : α → κ} (size : α → Value)
  {created? : Operation → Option (κ × Nat)}
  (empty : rows {} = [])
  (persist : ∀ (call : Call) (calls : List Call), ∀ old ∈ rows (replay calls),
    ∀ new ∈ rows (replay (call :: calls)), key new = key old → size new = size old)
  (arrive : ∀ (call : Call) (calls : List Call), ∀ row ∈ rows (replay (call :: calls)),
    key row ∉ (rows (replay calls)).map key →
      ∃ n : Nat, created? call.operation = some (key row, n) ∧ size row = .integer n)
include empty persist arrive

/-- If rows keep their sizes, and come in with those in the calls that create them, then the size of
each is that in the call that brought it in. -/
theorem lastSize?_of_mem (calls : List Call) : ∀ row ∈ rows (replay calls), ∃ n : Nat,
    lastSize? created? (fun catalog => (rows catalog).map key) (key row) calls = some n ∧
      size row = .integer n := by
  induction calls with
  | nil =>
    intro row hrow
    rw [Call.replay_nil, empty] at hrow
    contradiction
  | cons call calls ih =>
    intro row hrow
    have hafter : key row ∈ (rows (replay (call :: calls))).map key := List.mem_map_of_mem hrow
    rw [lastSize?]
    by_cases hbefore : key row ∈ (rows (replay calls)).map key
    · -- the row was there before the call, and has kept its size
      obtain ⟨old, hold, hkey⟩ := List.mem_map.1 hbefore
      obtain ⟨n, hn, hsize⟩ := ih old hold
      rw [if_neg fun hnew => hnew.1 hbefore, ← hkey]
      exact ⟨n, hn, (persist call calls old hold row hrow hkey.symm).trans hsize⟩
    · obtain ⟨n, hcreated, hsize⟩ := arrive call calls row hrow hbefore
      rw [if_pos ⟨hbefore, hafter⟩, hcreated]
      exact ⟨n, by simp, hsize⟩

end rows

end Call

/-! ## rows that come in -/

section arrivals

variable {context : Context} {catalog : Catalog}

/-- A NAR file that comes in has the size in the call that creates it. -/
theorem fileSize_of_createNarFile {draft : NarFile.Draft} {row : NarFile Value}
    (absent : draft.key ∉ catalog.narFiles.map (·.key))
    (hrow : row ∈ (createNarFile context draft catalog).2.narFiles) (hkey : row.key = draft.key) :
    row.fileSize = .integer draft.fileSize.toNat := by
  have hout : row ∉ catalog.narFiles := fun hmem => absent (hkey ▸ List.mem_map_of_mem hmem)
  cases haccepted : draft.isStorable with
  | false =>
    obtain ⟨text, herror⟩ := createNarFile_of_not_isStorable haccepted
    rw [herror] at hrow
    exact absurd hrow hout
  | true =>
    cases hlock : context.contended with
    | true =>
      rw [createNarFile_of_contended hlock haccepted] at hrow
      exact absurd hrow hout
    | false =>
      have hnone : catalog.narFileByKey? draft.key = none := by
        rw [Catalog.narFileByKey?, Catalog.find?_column_eq_none]
        exact fun old hold heq => absent (heq ▸ List.mem_map_of_mem hold)
      rw [createNarFile_of_merge hlock haccepted (Catalog.mergeNarFile_of_none hnone ..)] at hrow
      rcases List.mem_append.1 hrow with hold | hnew
      · exact absurd hold hout
      · rw [List.mem_singleton.1 hnew]
        rfl

/-- A chunk that comes in has the size in the call that creates it. -/
theorem size_of_createChunk {hash : String} {size : UInt32} {row : Chunk Value}
    (absent : hash ∉ catalog.chunks.map (·.hash))
    (hrow : row ∈ (createChunk context hash size catalog).2.chunks) (hhash : row.hash = hash) :
    row.size = .integer size.toNat := by
  have hout : row ∉ catalog.chunks := fun hmem => absent (hhash ▸ List.mem_map_of_mem hmem)
  cases hlock : context.contended with
  | true =>
    rw [createChunk_of_contended hlock] at hrow
    exact absurd hrow hout
  | false =>
    have hnone : catalog.chunkByHash? hash = none := by
      rw [Catalog.chunkByHash?, Catalog.find?_column_eq_none]
      exact fun old hold heq => absent (heq ▸ List.mem_map_of_mem hold)
    rw [createChunk_of_merge hlock (Catalog.mergeChunk_of_none hnone ..)] at hrow
    rcases List.mem_append.1 hrow with hold | hnew
    · exact absurd hold hout
    · rw [List.mem_singleton.1 hnew]
      rfl

/-- A call that may bring in a NAR file is the one that creates it. -/
theorem Operation.eq_createNarFile {operation : Operation} {key : NarFile.Key}
    (h : operation.scope.narFile = some key) :
    ∃ draft, operation = .write (.createNarFile draft) ∧ draft.key = key := by
  cases operation with
  | read query => contradiction
  | write change =>
    cases change with
    | createNarFile draft => exact ⟨draft, rfl, Option.some.inj h⟩
    | _ => contradiction

/-- A call that may bring in a chunk is the one that creates it. -/
theorem Operation.eq_createChunk {operation : Operation} {hash : String}
    (h : operation.scope.chunk = some hash) :
    ∃ size, operation = .write (.createChunk hash size) := by
  cases operation with
  | read query => contradiction
  | write change =>
    cases change with
    | createChunk other size => exact ⟨size, by rw [Option.some.inj h]⟩
    | _ => contradiction

end arrivals

namespace Call

/-- A row that is there before a call and after it has kept what it came in with. -/
theorem keepsOrigins (call : Call) (calls : List Call) :
    KeepsOrigins (replay calls) (replay (call :: calls)) :=
  .effect (replay_wellFormed calls) (call.run_effect (replay calls))

/-- The size of a NAR file is that in the call that brought it in. -/
theorem fileSize?_of_mem {calls : List Call} {row : NarFile Value}
    (hrow : row ∈ (replay calls).narFiles) :
    ∃ n : Nat, fileSize? calls row.key = some n ∧ row.fileSize = .integer n := by
  refine lastSize?_of_mem Catalog.narFiles NarFile.fileSize rfl ?_ ?_ calls row hrow
  · intro call calls old hold new hnew hkey
    have horigin := (keepsOrigins call calls).narFiles old hold new hnew hkey
    exact congrArg (·.2.2) horigin
  · intro call calls row hrow habsent
    have hscope := ((call.operation.run_inScope call.context (replay calls)).narFiles row
      hrow).resolve_left habsent
    obtain ⟨draft, hcreates, hkey⟩ := Operation.eq_createNarFile hscope
    refine ⟨draft.fileSize.toNat, by rw [hcreates, Operation.createdFile?, hkey], ?_⟩
    rw [replay_cons, run, hcreates] at hrow
    exact fileSize_of_createNarFile (hkey ▸ habsent) hrow hkey.symm

/-- The size of a chunk is that in the call that brought it in. -/
theorem chunkSize?_of_mem {calls : List Call} {row : Chunk Value}
    (hrow : row ∈ (replay calls).chunks) :
    ∃ n : Nat, chunkSize? calls row.hash = some n ∧ row.size = .integer n := by
  refine lastSize?_of_mem Catalog.chunks Chunk.size rfl ?_ ?_ calls row hrow
  · intro call calls old hold new hnew hhash
    have horigin := (keepsOrigins call calls).chunks old hold new hnew hhash
    exact congrArg (·.2.2) horigin
  · intro call calls row hrow habsent
    have hscope := ((call.operation.run_inScope call.context (replay calls)).chunks row
      hrow).resolve_left habsent
    obtain ⟨size, hcreates⟩ := Operation.eq_createChunk hscope
    refine ⟨size.toNat, by rw [hcreates, Operation.createdChunk?], ?_⟩
    rw [replay_cons, run, hcreates] at hrow
    exact size_of_createChunk habsent hrow rfl

-- a chunk that has gone and come in again has its new size
example :
    let create (size : UInt32) : Event := .call .epoch (.write (.createChunk "c" size))
    let delete : Event := .call .epoch (.write (.deleteChunkById 1))
    let account := (Account.fresh .sqlite).after [create 7, delete, create 9, create 11]
    chunkSize? account.calls "c" = some 9 := by
  decide

end Call

/-! ## totals -/

/-- Where the size of each row is known by its key, the sizes are those of the keys. -/
theorem map_size_eq {α κ : Type} {key : α → κ} {size : α → Value} {size? : κ → Option Nat}
    {rows : List α}
    (h : ∀ row ∈ rows, ∃ n : Nat, size? (key row) = some n ∧ size row = .integer n) :
    rows.map size = keptSizes ((rows.map key).filterMap size?) := by
  induction rows with
  | nil => rfl
  | cons row rows ih =>
    obtain ⟨⟨n, hn, hsize⟩, hrows⟩ := List.forall_mem_cons.1 h
    rw [List.map_cons, List.map_cons, List.filterMap_cons_some hn, Catalog.keptSizes_cons, hsize,
      ih hrows]

/-- The sum of sizes is a size, if it can be held; and otherwise it overflows. -/
theorem sized_keptSizes (what : String) (sizes : List Nat) :
    (do
      sized what (← summed (do return (← Catalog.sum (keptSizes sizes)).getD (.integer 0))))
      = if (sizes.sum : Int) ≤ maxInteger then .ok sizes.sum
        else .error (.database "query" .sumOverflowed) := by
  rw [Catalog.sum_sizes]
  by_cases hnil : sizes = []
  · rw [hnil]
    rfl
  · rw [if_neg hnil]
    split
    · change sized what (sizes.sum : Nat) = _
      rw [sized, if_pos (Int.natCast_nonneg _), Int.toNat_natCast]
    · rfl

namespace Session

/-- A call adds up the sizes of all keys that are there, if the sum is one that a column can hold;
otherwise it fails, and changes nothing. -/
def AddsUp {κ : Type} (session : Session) (query : Query) (IsThere : κ → Prop)
    (size? : κ → Option Nat) : Prop :=
  ∃ keys : List κ, keys.Nodup ∧ (∀ key, key ∈ keys ↔ IsThere key) ∧
    (∀ key ∈ keys, (size? key).isSome) ∧
    let total := (keys.filterMap size?).sum
    if (total : Int) ≤ maxInteger then session.Answers query (.count total)
    else ∀ now, session.perform now (.read query)
      = (.error (.database "query" .sumOverflowed), session)

/-- The totals are those of the sizes that came with the calls that brought the rows in, and a call
to create a NAR file with a number that no column can hold is refused, and does not count. -/
structure SizesAddUp (session : Session) (calls : List Call) : Prop where
  files : session.AddsUp .totalFileSize
    (fun key => ∃ file, session.Answers (.narFileByKey key) (.narFile file)) (Call.fileSize? calls)
  chunks : session.AddsUp .totalChunkSize
    (fun hash => ∃ chunk, session.Answers (.chunkByHash hash) (.chunk chunk))
    (Call.chunkSize? calls)
  refuses : ∀ now (draft : NarFile.Draft),
    maxInteger < draft.fileSize.toNat ∨ maxInteger < draft.totalChunks.toNat →
      let operation : Operation := .write (.createNarFile draft)
      (∃ text, session.perform now operation = (.error (.internal text), session)) ∧
        Call.fileSize? (session.call now operation :: calls) = Call.fileSize? calls

variable {session : Session}

/-- A call that adds up the sizes of a table does so where they are known by the keys. -/
theorem addsUp_of_sizes {ρ : Type → Type} [Readable ρ] [Keepable ρ] {κ : Type} [BEq κ]
    [LawfulBEq κ] (access : Access ρ κ) (h : session.catalog.WellFormed) {query : Query}
    {what : String} {size : ρ Value → Value} {size? : κ → Option Nat}
    (hquery : query.answer session.dialect session.catalog = (do
      sized what (← summed (do
        return (← Catalog.sum
          ((Catalog.byId access.id (access.rows session.catalog)).map size)).getD
            (.integer 0)))).map Answer.count)
    (hsizes : ∀ row ∈ access.rows session.catalog, ∃ n : Nat,
      size? (access.key row) = some n ∧ size row = .integer n) :
    session.AddsUp query (fun key => ∃ r, session.Answers (access.byKey key) (access.answer r))
      size? := by
  have hrows := access.sound h
  rw [hrows.byId_eq, map_size_eq hsizes, sized_keptSizes] at hquery
  refine ⟨(access.rows session.catalog).map access.key, hrows.keys_nodup, fun key => ?_, ?_, ?_⟩
  · simp only [access.answers_byKey h, List.mem_map]
    constructor
    · rintro ⟨row, hrow, rfl⟩
      obtain ⟨r, rfl, hrange⟩ := hrows.sound row hrow
      exact ⟨r, ⟨hrow, hrange⟩, (access.key_kept r).symm⟩
    · rintro ⟨r, hheld, rfl⟩
      exact ⟨kept r, hheld.1, access.key_kept r⟩
  · intro key hkey
    obtain ⟨row, hrow, rfl⟩ := List.mem_map.1 hkey
    obtain ⟨n, hn, -⟩ := hsizes row hrow
    rw [hn, Option.isSome_some]
  · intro total
    split
    · next hfits =>
      rw [if_pos hfits] at hquery
      exact answers_iff.2 hquery
    · next hlarge =>
      rw [if_neg hlarge] at hquery
      intro now
      rw [perform, Operation.run, context, hquery]
      rfl

/-- A call to create a NAR file that is refused brings none in. -/
theorem refuses_unstorable {calls : List Call} (h : session.catalog = replay calls)
    (now : Time.Timestamp) {draft : NarFile.Draft}
    (hlarge : maxInteger < draft.fileSize.toNat ∨ maxInteger < draft.totalChunks.toNat) :
    let operation : Operation := .write (.createNarFile draft)
    (∃ text, session.perform now operation = (.error (.internal text), session)) ∧
      Call.fileSize? (session.call now operation :: calls) = Call.fileSize? calls := by
  intro operation
  have hrejected : draft.isStorable = false := by
    rw [NarFile.Draft.isStorable, isStorable, isStorable, Bool.and_eq_false_iff,
      decide_eq_false_iff_not, decide_eq_false_iff_not]
    omega
  obtain ⟨text, herror⟩ := createNarFile_of_not_isStorable hrejected
  have hperform : session.perform now operation = (.error (.internal text), session) := by
    rw [perform, Operation.run, Change.run, herror]
    rfl
  refine ⟨⟨text, hperform⟩, funext fun key => ?_⟩
  have hsame : replay (session.call now operation :: calls) = replay calls := by
    rw [← replay_call h, hperform, h]
  rw [Call.fileSize?, Call.lastSize?, hsame, if_neg fun hnew => hnew.1 hnew.2, Call.fileSize?]

/-- The totals of a store are those of its calls. -/
theorem sizesAddUp {calls : List Call} (h : session.catalog = replay calls) :
    session.SizesAddUp calls := by
  have hformed := wellFormed_of_replay h
  refine ⟨?_, ?_, fun now _ hlarge => refuses_unstorable h now hlarge⟩
  · exact addsUp_of_sizes .narFiles hformed rfl fun row hrow =>
      Call.fileSize?_of_mem (by rwa [← h])
  · exact addsUp_of_sizes .chunks hformed rfl fun row hrow =>
      Call.chunkSize?_of_mem (by rwa [← h])

end Session

/-! ## every run -/

/-- What is stored is added up exactly, over every run of a store from empty tables.  After any
history, and within its blocks after any of their steps, the call that tells the size of all NAR
files answers with the sum over the files that are there, and of each the size counts that came with
the call that brought it in: a file that has gone does not count, one that has come in again counts
with its new size, and what was taken back with a transaction counts for nothing.  If the sum is
more than a column can hold, the call fails instead.  So it is with the chunks.  A call to create a
NAR file with a number that is more than a column can hold is refused, and does not count. -/
theorem Account.sizes_add_up (history : List Event) :
    let account := (fresh .sqlite).after history
    account.session = (Session.fresh .sqlite).after history ∧
      account.session.SizesAddUp account.calls ∧
      ∀ opened tolerant steps, account.session.begin = .ok opened →
        (opened.runSteps tolerant steps).session.SizesAddUp
          (opened.callsOfSteps account.calls tolerant steps) :=
  throughout (fun _ _ => Session.sizesAddUp) .sqlite history

end NarIndex.Store
