import Mathlib.Data.List.Forall2
import NarIndex.Proofs.Catalog.Merge
import NarIndex.Proofs.Store.Creation
import NarIndex.Proofs.Store.Transaction

/-!
# NarIndex.Proofs.Store.FirstUrl

The first URL wins.  Callers may create the NarInfo of a hash any number of times, some with a URL
and some without, while rows of other hashes come in and rows are linked.  All of them get the same
row.  Call by call it is what merging makes of it (`settled`); in the end it is what the first call
with a URL has brought, or what the first call has brought if there was no URL
(`Session.first_url_wins`).
-/

namespace NarIndex.Store

open Catalog (Keepable kept)

/-! ## drafts for a hash -/

/-- What a call to create the NarInfo of a hash brings. -/
def Operation.creation? (hash : String) : Operation → Option NarInfo.Draft
  | .write (.createNarInfo draft) => if draft.hash = hash then some draft else none
  | _ => none

/-- Of calls one after the other, those that create the NarInfo of a hash: the time of each, and
what it brings. -/
def creationsOf (hash : String) (operations : List (Time.Timestamp × Operation)) :
    List (Time.Timestamp × NarInfo.Draft) :=
  operations.filterMap fun (now, operation) => (operation.creation? hash).map (now, ·)

/-- The first of several drafts that has a URL. -/
def firstUrl? (drafts : List (Time.Timestamp × NarInfo.Draft)) :
    Option (Time.Timestamp × NarInfo.Draft) :=
  drafts.find? (·.2.url.isSome)

/-- The first of several drafts that has a URL, or the first one if none has. -/
def winner (first : Time.Timestamp × NarInfo.Draft)
    (rest : List (Time.Timestamp × NarInfo.Draft)) : Time.Timestamp × NarInfo.Draft :=
  (firstUrl? (first :: rest)).getD first

/-- The first draft wins if it has a URL. -/
theorem winner_of_isSome {first : Time.Timestamp × NarInfo.Draft} (h : first.2.url.isSome)
    (rest : List (Time.Timestamp × NarInfo.Draft)) : winner first rest = first := by
  simp [winner, firstUrl?, h]

/-- Else the first of the others with a URL does, if there is one. -/
theorem winner_of_isNone {first : Time.Timestamp × NarInfo.Draft}
    (h : first.2.url.isSome = false) (rest : List (Time.Timestamp × NarInfo.Draft)) :
    winner first rest = (firstUrl? rest).getD first := by
  simp [winner, firstUrl?, h]

section creations

variable {hash : String} {operation : Operation} {draft : NarInfo.Draft}

/-- The calls that count are those that create the NarInfo of the hash. -/
theorem eq_createNarInfo_of_creation? (h : operation.creation? hash = some draft) :
    operation = .write (.createNarInfo draft) ∧ draft.hash = hash := by
  unfold Operation.creation? at h
  split at h
  · split at h
    · next hhash =>
      cases h
      exact ⟨rfl, hhash⟩
    · contradiction
  · contradiction

theorem creationsOf_cons (hash : String) (head : Time.Timestamp × Operation)
    (operations : List (Time.Timestamp × Operation)) :
    creationsOf hash (head :: operations)
      = creationsOf hash [head] ++ creationsOf hash operations :=
  List.filterMap_append (l := [head])

theorem creationsOf_of_none (h : operation.creation? hash = none) (now : Time.Timestamp) :
    creationsOf hash [(now, operation)] = [] := by
  simp [creationsOf, h]

theorem creationsOf_of_some (h : operation.creation? hash = some draft) (now : Time.Timestamp) :
    creationsOf hash [(now, operation)] = [(now, draft)] := by
  simp [creationsOf, h]

end creations

/-! ## one row, draft by draft -/

/-- A row after drafts for its hash came in, one after the other. -/
def settled (row : NarInfo Int) (drafts : List (Time.Timestamp × NarInfo.Draft)) : NarInfo Int :=
  drafts.foldl (fun row (call : _ × _) => row.merged call.2.details call.1.micros) row

section settled

variable {row : NarInfo Int}

theorem settled_cons (row : NarInfo Int) (now : Time.Timestamp) (draft : NarInfo.Draft)
    (drafts : List (Time.Timestamp × NarInfo.Draft)) :
    settled row ((now, draft) :: drafts) = settled (row.merged draft.details now.micros) drafts :=
  rfl

/-- A row that is more than a placeholder stays as it is. -/
theorem settled_of_isMigrated (h : row.isMigrated)
    (drafts : List (Time.Timestamp × NarInfo.Draft)) : settled row drafts = row := by
  induction drafts with
  | nil => rfl
  | cons head drafts ih => rw [settled_cons, NarInfo.merged_of_isMigrated h, ih]

/-- A placeholder takes the details of the first draft with a URL, if there is one. -/
theorem settled_of_placeholder (h : row.isMigrated = false)
    (drafts : List (Time.Timestamp × NarInfo.Draft)) :
    settled row drafts
      = (firstUrl? drafts).elim row fun call => row.amended call.2.details call.1.micros := by
  induction drafts with
  | nil => rfl
  | cons head drafts ih =>
    obtain ⟨now, draft⟩ := head
    rw [settled_cons]
    cases hurl : draft.url.isSome with
    | false =>
      have hnone : draft.details.url.isSome = false := hurl
      rw [NarInfo.merged_of_isNone hnone, ih]
      simp [firstUrl?, hurl]
    | true =>
      have hsome : draft.details.url.isSome := hurl
      have hfilled : (row.amended draft.details now.micros).isMigrated := hurl
      rw [NarInfo.merged_of_placeholder h hsome, settled_of_isMigrated hfilled]
      simp [firstUrl?, hurl]

/-- A row settles with some drafts and then with others as it does with all of them. -/
theorem settled_append (row : NarInfo Int)
    (drafts others : List (Time.Timestamp × NarInfo.Draft)) :
    settled row (drafts ++ others) = settled (settled row drafts) others :=
  List.foldl_append

/-- The id of a row stays. -/
theorem id_settled (row : NarInfo Int) (drafts : List (Time.Timestamp × NarInfo.Draft)) :
    (settled row drafts).id = row.id := by
  induction drafts generalizing row with
  | nil => rfl
  | cons head drafts ih => exact ih (row.merged head.2.details head.1.micros)

/-- What a new row has settled to. -/
theorem settled_fresh (id : Int) (hash : String) (first : Time.Timestamp × NarInfo.Draft)
    (rest : List (Time.Timestamp × NarInfo.Draft)) :
    settled (.fresh id hash first.2.details first.1.micros) rest
      = { id, hash, details := (winner first rest).2.details, createdAt := first.1.micros,
          updatedAt := if first.2.url.isSome then none else (firstUrl? rest).map (·.1.micros),
          lastAccessedAt := (winner first rest).1.micros } := by
  have hfresh : (NarInfo.fresh id hash first.2.details first.1.micros).isMigrated
      = first.2.url.isSome := rfl
  cases hurl : first.2.url.isSome with
  | true =>
    rw [settled_of_isMigrated (hfresh.trans hurl), winner_of_isSome hurl]
    rfl
  | false =>
    rw [settled_of_placeholder (hfresh.trans hurl), winner_of_isNone hurl]
    cases firstUrl? rest <;> rfl

end settled

/-! ## calls -/

/-- Whether a call only reads, or creates or relates rows. -/
def Operation.isAdditive : Operation → Bool
  | .read _ => true
  | .write (.createNarInfo _) | .write (.createNarFile _) | .write (.createChunk _ _) => true
  | .write (.linkNarInfoToFile _ _) | .write (.addReference _ _) | .write (.addReferences _ _)
  | .write (.addSignature _ _) | .write (.addSignatures _ _) | .write (.linkFileToChunk _ _ _)
  | .write (.linkFileToChunks _ _ _) => true
  | _ => false

/-- Such a call changes no NarInfos of a hash, unless it creates the NarInfo of this hash. -/
theorem Operation.narInfosOf_run {hash : String} {operation : Operation}
    (additive : operation.isAdditive) (other : operation.creation? hash = none) (context : Context)
    (catalog : Catalog) :
    (operation.run context catalog).2.narInfosOf hash = catalog.narInfosOf hash := by
  have hsame {after : Catalog} (h : after.narInfos = catalog.narInfos) :
      after.narInfosOf hash = catalog.narInfosOf hash := congrArg (List.filter _) h
  cases operation with
  | read query => rfl
  | write change =>
    cases change with
    | createNarInfo draft =>
      have hne : draft.hash ≠ hash := by simpa [creation?] using other
      exact createNarInfo_leads (R := fun a b => b.narInfosOf hash = a.narInfosOf hash) context
        catalog (fun _ => rfl) fun _ hok => Catalog.narInfosOf_of_mergeNarInfo hne hok
    | createNarFile draft =>
      exact hsame (createNarFile_leads (R := fun a b => b.narInfos = a.narInfos) context catalog
        (fun _ => rfl) fun _ _ hok => Catalog.narInfos_of_mergeNarFile hok)
    | createChunk hash size =>
      exact hsame (createChunk_leads (R := fun a b => b.narInfos = a.narInfos) context catalog
        (fun _ => rfl) Catalog.narInfos_of_mergeChunk)
    | linkNarInfoToFile narInfo narFile =>
      exact hsame (context.write_relates _ Catalog.linkFile_relates _ catalog).narInfos
    | addReference narInfo reference =>
      exact hsame (context.write_relates _ Catalog.addReference_relates _ catalog).narInfos
    | addReferences narInfo references =>
      exact hsame (addInBatches_relates context catalog _ Catalog.addReference_relates _).narInfos
    | addSignature narInfo signature =>
      exact hsame (context.write_relates _ Catalog.addSignature_relates _ catalog).narInfos
    | addSignatures narInfo signatures =>
      exact hsame (addInBatches_relates context catalog _ Catalog.addSignature_relates _).narInfos
    | linkFileToChunk narFile chunk index =>
      exact hsame (context.write_relates _ Catalog.linkChunk_relates _ catalog).narInfos
    | linkFileToChunks narFile chunks indices =>
      exact hsame (linkFileToChunks_relates context catalog narFile chunks indices).narInfos
    | _ => contradiction

/-! ## several calls -/

namespace Session

/-- If a call creates the NarInfo of a hash, its answer is a row with an id. -/
def AnswersId (hash : String) (id : Int) (call : Time.Timestamp × Operation)
    (result : Except StoreError Answer) : Prop :=
  (call.2.creation? hash).isSome → ∃ row, result = .ok (.narInfo row) ∧ row.id = id

/-- A call that does not create the NarInfo need not answer with its id. -/
theorem answersId_of_none {hash : String} {call : Time.Timestamp × Operation}
    (h : call.2.creation? hash = none) (id : Int) (result : Except StoreError Answer) :
    AnswersId hash id call result := by
  simp [AnswersId, h]

variable {session : Session} {hash : String} {operations : List (Time.Timestamp × Operation)}

/-- Once the NarInfo of a hash is there, a call to create it gets it, and every call leaves it as
merging what the call brings, if anything, makes it. -/
theorem perform_of_present {row : NarInfo Int} {now : Time.Timestamp} {operation : Operation}
    (free : session.contended = false) (present : session.catalog.narInfosOf hash = [kept row])
    (hrow : Keepable.InRange row) (additive : operation.isAdditive)
    (storable : ∀ draft ∈ creationsOf hash [(now, operation)], draft.2.isStorable) :
    AnswersId hash row.id (now, operation) (session.perform now operation).1 ∧
      (session.perform now operation).2.catalog.narInfosOf hash
        = [kept (settled row (creationsOf hash [(now, operation)]))] ∧
      Keepable.InRange (settled row (creationsOf hash [(now, operation)])) := by
  cases hcreation : operation.creation? hash with
  | none =>
    rw [creationsOf_of_none hcreation]
    refine ⟨answersId_of_none hcreation _ _, ?_, hrow⟩
    exact (operation.narInfosOf_run additive hcreation _ _).trans present
  | some draft =>
    rw [creationsOf_of_some hcreation] at storable ⊢
    obtain ⟨rfl, rfl⟩ := eq_createNarInfo_of_creation? hcreation
    have accepted : draft.isStorable := storable (now, draft) List.mem_cons_self
    have hfound : session.catalog.narInfoByHash? draft.hash = some (kept row) := by
      rw [← Catalog.head?_narInfosOf, present, List.head?_cons]
    have hfits := inRange_of_detailsOf (NarInfo.Draft.detailsOf_of_isStorable accepted)
    rw [perform_createNarInfo_of_some free accepted hfound hrow]
    refine ⟨fun _ => ⟨_, rfl, rfl⟩, ?_, NarInfo.inRange_merged hfits hrow now⟩
    rw [Catalog.narInfosOf_withMerged, present, List.map_singleton, NarInfo.kept_merged]
    rfl

/-- So do several calls. -/
theorem calls_of_present {row : NarInfo Int} (free : session.contended = false)
    (present : session.catalog.narInfosOf hash = [kept row]) (hrow : Keepable.InRange row)
    (additive : ∀ call ∈ operations, call.2.isAdditive)
    (storable : ∀ draft ∈ creationsOf hash operations, draft.2.isStorable) :
    List.Forall₂ (AnswersId hash row.id) operations (session.results (Event.calls operations)) ∧
      (session.after (Event.calls operations)).catalog.narInfosOf hash
        = [kept (settled row (creationsOf hash operations))] ∧
      Keepable.InRange (settled row (creationsOf hash operations)) := by
  induction operations generalizing session row with
  | nil => exact ⟨.nil, present, hrow⟩
  | cons head operations ih =>
    obtain ⟨hadditive, hadditives⟩ := List.forall_mem_cons.1 additive
    rw [creationsOf_cons] at storable ⊢
    obtain ⟨hstorable, hstorables⟩ := List.forall_mem_append.1 storable
    obtain ⟨hanswer, hnext, hrange⟩ := perform_of_present free present hrow hadditive hstorable
    obtain ⟨hanswers, hrows, hranges⟩ :=
      @ih (session.perform head.1 head.2).2 _ free hnext hrange hadditives hstorables
    rw [id_settled] at hanswers
    rw [results_calls_cons, after_calls_cons, settled_append]
    exact ⟨.cons hanswer hanswers, hrows, hranges⟩

/-- Where the NarInfo of a hash is absent, a call to create it brings it in. -/
theorem perform_of_absent {draft : NarInfo.Draft} (free : session.contended = false)
    (absent : session.catalog.narInfosOf draft.hash = []) (accepted : draft.isStorable)
    (now : Time.Timestamp) :
    ∃ id,
      (session.perform now (.write (.createNarInfo draft))).1
        = .ok (.narInfo (.fresh id draft.hash draft.details now.micros)) ∧
      (session.perform now (.write (.createNarInfo draft))).2.catalog.narInfosOf draft.hash
        = [kept (.fresh id draft.hash draft.details now.micros)] ∧
      Keepable.InRange (NarInfo.fresh id draft.hash draft.details now.micros) := by
  have hfits := inRange_of_detailsOf (NarInfo.Draft.detailsOf_of_isStorable accepted)
  rw [perform_createNarInfo_of_none free accepted (Catalog.narInfosOf_eq_nil.1 absent)]
  refine ⟨_, rfl, ?_, NarInfo.inRange_fresh hfits _ _ now⟩
  rw [Catalog.narInfosOf_addNarInfo, absent]
  rfl

/-- So the first of several calls does. -/
theorem calls_of_absent (free : session.contended = false)
    (absent : session.catalog.narInfosOf hash = [])
    (additive : ∀ call ∈ operations, call.2.isAdditive)
    (storable : ∀ draft ∈ creationsOf hash operations, draft.2.isStorable)
    {first : Time.Timestamp × NarInfo.Draft} {rest : List (Time.Timestamp × NarInfo.Draft)}
    (hdrafts : creationsOf hash operations = first :: rest) :
    ∃ id, List.Forall₂ (AnswersId hash id) operations
        (session.results (Event.calls operations)) ∧
      (session.after (Event.calls operations)).catalog.narInfosOf hash
        = [kept (settled (.fresh id hash first.2.details first.1.micros) rest)] ∧
      Keepable.InRange (settled (.fresh id hash first.2.details first.1.micros) rest) := by
  induction operations generalizing session with
  | nil => contradiction
  | cons head operations ih =>
    obtain ⟨now, operation⟩ := head
    obtain ⟨hadditive, hadditives⟩ := List.forall_mem_cons.1 additive
    rw [creationsOf_cons] at storable hdrafts
    obtain ⟨hstorable, hstorables⟩ := List.forall_mem_append.1 storable
    rw [results_calls_cons, after_calls_cons]
    cases hcreation : operation.creation? hash with
    | none =>
      rw [creationsOf_of_none hcreation, List.nil_append] at hdrafts
      have hframe :=
        operation.narInfosOf_run hadditive hcreation (session.context now) session.catalog
      obtain ⟨id, hanswers, hrows, hrange⟩ :=
        @ih (session.perform now operation).2 free (hframe.trans absent) hadditives
          hstorables hdrafts
      exact ⟨id, .cons (answersId_of_none hcreation _ _) hanswers, hrows, hrange⟩
    | some draft =>
      rw [creationsOf_of_some hcreation] at hstorable hdrafts
      rw [List.singleton_append] at hdrafts
      obtain ⟨rfl, rfl⟩ := List.cons_eq_cons.1 hdrafts
      obtain ⟨rfl, rfl⟩ := eq_createNarInfo_of_creation? hcreation
      have accepted : draft.isStorable := hstorable (now, draft) List.mem_cons_self
      obtain ⟨id, hanswer, hrow, hrange⟩ := perform_of_absent free absent accepted now
      obtain ⟨hanswers, hrows, hranges⟩ :=
        @calls_of_present (session.perform now (.write (.createNarInfo draft))).2 _ _ _ free hrow
          hrange hadditives hstorables
      exact ⟨id, .cons (fun _ => ⟨_, hanswer, rfl⟩) hanswers, hrows, hranges⟩

/-- The first URL wins.  Where the NarInfo of a hash is absent, and no other connection has the
write lock, calls are made one after the other, each at its time; they may read, create and relate
rows, and some of them create the NarInfo of this hash.  Each of these gets it, always with the same
id.  In the end there is one NarInfo of this hash.  Its details are those that the first call with a
URL brought, or the first call if none had a URL.  It was created by the first call.  It has been
changed only if a later call brought the first URL; then it was changed, and last used, by this
call, and otherwise by the first one. -/
theorem first_url_wins (free : session.contended = false)
    (absent : session.catalog.narInfoByHash? hash = none)
    (additive : ∀ call ∈ operations, call.2.isAdditive)
    (storable : ∀ draft ∈ creationsOf hash operations, draft.2.isStorable)
    {first : Time.Timestamp × NarInfo.Draft} {rest : List (Time.Timestamp × NarInfo.Draft)}
    (hdrafts : creationsOf hash operations = first :: rest) :
    let later := session.after (Event.calls operations)
    ∃ row : NarInfo Int,
      List.Forall₂ (AnswersId hash row.id) operations (session.results (Event.calls operations)) ∧
      later.catalog.narInfosOf hash = [kept row] ∧
      (∀ now, (later.perform now (.read (.narInfoByHash hash))).1 = .ok (.narInfo row)) ∧
      row.details = (winner first rest).2.details ∧
      row.createdAt = first.1.micros ∧
      row.updatedAt = (if first.2.url.isSome then none else (firstUrl? rest).map (·.1.micros)) ∧
      row.lastAccessedAt = (winner first rest).1.micros := by
  intro later
  obtain ⟨id, hanswers, hrows, hrange⟩ :=
    calls_of_absent free (Catalog.narInfosOf_eq_nil.2 absent) additive storable hdrafts
  rw [settled_fresh] at hrows hrange
  have hfound := Catalog.head?_narInfosOf later.catalog hash
  rw [hrows, List.head?_cons] at hfound
  refine ⟨_, hanswers, hrows, fun now => ?_, rfl, rfl, rfl, rfl⟩
  change (narInfoByHash later.catalog hash).map Answer.narInfo = _
  rw [narInfoByHash, ← hfound, found, Catalog.read_kept hrange]
  rfl

/-- A draft without a URL but with a size comes first, and the first URL while the clock goes back;
the second URL is too late. -/
theorem first_url_wins_late :
    let early : Time.Timestamp := ⟨-5, by decide, by decide⟩
    let late : Time.Timestamp := ⟨5, by decide, by decide⟩
    let session := (fresh .postgres).after (Event.calls [
      (.epoch, .write (.createNarInfo (placeholder "h"))),
      (.epoch, .write (.createNarInfo (placeholder "g"))),
      (.epoch, .write (.deleteNarInfoByHash "h"))])
    let first : NarInfo.Draft := { hash := "h", narSize := some 1 }
    let second : NarInfo.Draft := { hash := "h", url := some "a", narSize := some 7 }
    let third : NarInfo.Draft := { hash := "h", url := some "b" }
    let operations : List (Time.Timestamp × Operation) := [
      (late, .write (.createNarInfo first)), (.epoch, .write (.createNarInfo (placeholder "i"))),
      (.epoch, .write (.createNarFile ⟨{ hash := "f" }, 10, 0⟩)),
      (early, .write (.createNarInfo second)), (.epoch, .write (.linkNarInfoToFile 3 1)),
      (late, .write (.createNarInfo third))]
    session.Reachable ∧ session.contended = false ∧
      session.catalog.narInfoByHash? "h" = none ∧
      (∀ call ∈ operations, call.2.isAdditive) ∧
      (∀ draft ∈ creationsOf "h" operations, draft.2.isStorable) ∧
      creationsOf "h" operations = [(late, first), (early, second), (late, third)] ∧
      ∃ row : NarInfo Int,
        (session.after (Event.calls operations)).catalog.narInfosOf "h" = [kept row] ∧
        row.details = second.details ∧ row.createdAt = 5 ∧ row.updatedAt = some (-5) ∧
        row.lastAccessedAt = -5 := by
  intro early late session first second third operations
  have h : session.Reachable := (Reachable.fresh .postgres).after _
  have absent : session.catalog.narInfoByHash? "h" = none := by decide +kernel
  have additive : ∀ call ∈ operations, call.2.isAdditive := by decide
  have storable : ∀ draft ∈ creationsOf "h" operations, draft.2.isStorable := by decide +kernel
  have hdrafts : creationsOf "h" operations = [(late, first), (early, second), (late, third)] := by
    decide +kernel
  obtain ⟨row, -, hrows, -, hdetails, hcreated, hupdated, haccessed⟩ :=
    first_url_wins rfl absent additive storable hdrafts
  exact ⟨h, rfl, absent, additive, storable, hdrafts, row, hrows, hdetails, hcreated, hupdated,
    haccessed⟩

end Session

end NarIndex.Store
