import NarIndex.Proofs.Store.Batch
import NarIndex.Proofs.Store.Lookup

/-!
# NarIndex.Proofs.Store.ChunkLinks

Calls that bring chunks to places of NAR files.  What such calls do, one link at a time or a whole
list at once, is said by the links that come in one after the other (`Session.linkEach`).  If all of
them can be added, then calls of their own and the list leave the same tables; otherwise both fail
at the first that cannot, for the same reason (`Session.linkFileToChunks_folds_links`).
-/

namespace NarIndex

namespace ChunkLink

/-- The call that brings a chunk to a place. -/
def call (link : ChunkLink) : Store.Operation :=
  .write (.linkFileToChunk link.narFile link.chunk link.index)

/-- The links of a NAR file that two lists ask for. -/
def asked (narFile : Int) (chunks indices : List Int) : List ChunkLink :=
  List.zipWith (mk narFile) chunks indices

theorem map_call_asked (narFile : Int) (chunks indices : List Int) :
    (asked narFile chunks indices).map call
      = (List.zipWith (Store.Change.linkFileToChunk narFile) chunks indices).map .write := by
  rw [asked, List.map_zipWith, List.map_zipWith]
  rfl

/-- Of the links to a place, the first is the one that the lists name first. -/
theorem find?_asked (narFile place : Int) (chunks indices : List Int) :
    ((asked narFile chunks indices).find? (isAt narFile place)).map chunk
      = (indices.zip chunks).lookup place := by
  induction chunks generalizing indices with
  | nil => simp [asked]
  | cons chunk chunks ih =>
    cases indices with
    | nil => rfl
    | cons index indices =>
      have hrest := ih indices
      rw [asked] at hrest ⊢
      rw [List.zipWith_cons_cons, List.zip_cons_cons, List.lookup_cons]
      by_cases hplace : place = index
      · rw [List.find?_cons_of_pos (by simp [isAt, hplace]), beq_iff_eq.2 hplace]
        rfl
      · have hne : (place == index) = false := beq_eq_false_iff_ne.2 hplace
        rw [List.find?_cons_of_neg (by simp [isAt, Ne.symm hplace]), hne]
        exact hrest

end ChunkLink

namespace Store

open Catalog (addEach linkChunk)

/-! ## calls that ask for links -/

/-- The links that a call asks for, if it is one that brings chunks to places, and names as many
chunks as places. -/
def Operation.asked? : Operation → Option (List ChunkLink)
  | .write (.linkFileToChunk narFile chunk index) => some [⟨narFile, chunk, index⟩]
  | .write (.linkFileToChunks narFile chunks indices) =>
    if chunks.length = indices.length then some (ChunkLink.asked narFile chunks indices) else none
  | _ => none

/-- All links that calls ask for. -/
def askedBy (operations : List (Time.Timestamp × Operation)) : List ChunkLink :=
  operations.flatMap fun (_, operation) => operation.asked?.getD []

/-- Calls with one link each ask for these links. -/
theorem asked_of_calls {operations : List (Time.Timestamp × Operation)} {links : List ChunkLink}
    (calls : operations.map (·.2) = links.map ChunkLink.call) :
    (∀ call ∈ operations, call.2.asked?.isSome) ∧ askedBy operations = links := by
  constructor
  · intro call hcall
    have hmem : call.2 ∈ links.map ChunkLink.call := calls ▸ List.mem_map_of_mem hcall
    obtain ⟨link, -, heq⟩ := List.mem_map.1 hmem
    rw [← heq]
    rfl
  · have hasked : askedBy operations
        = (operations.map (·.2)).flatMap fun operation => operation.asked?.getD [] := by
      rw [askedBy, List.flatMap_map]
    rw [hasked, calls, List.flatMap_map]
    exact List.flatMap_singleton' links

namespace Session

/-! ## one link -/

section single

variable {session : Session} {link : ChunkLink}

/-- A link that can be added is added. -/
theorem perform_call_of_ok {after : Catalog}
    (h : guarded session.contended linkChunk link session.catalog = .ok after)
    (now : Time.Timestamp) :
    session.perform now link.call = (.ok .done, { session with catalog := after }) := by
  have hwrite : (session.context now).write "link_nar_file_to_chunk"
      (Catalog.addAll linkChunk [link]) session.catalog = (.ok (), after) :=
    Context.write_addAll_of_ok h _
  rw [perform, ChunkLink.call, Operation.run, Change.run, hwrite]
  rfl

/-- A link that cannot be added changes nothing. -/
theorem perform_call_of_error {error : DriverError}
    (h : guarded session.contended linkChunk link session.catalog = .error error)
    (now : Time.Timestamp) :
    session.perform now link.call
      = (.error (.ofDriver "link_nar_file_to_chunk" error), session) := by
  have hwrite : (session.context now).write "link_nar_file_to_chunk"
      (Catalog.addAll linkChunk [link]) session.catalog
        = (.error (.ofDriver "link_nar_file_to_chunk" error), session.catalog) :=
    Context.write_addAll_of_error h _
  rw [perform, ChunkLink.call, Operation.run, Change.run, hwrite]
  rfl

/-- Linking succeeds just if the link can be added. -/
theorem perform_call_eq_ok (now : Time.Timestamp) :
    (session.perform now link.call).1 = .ok .done ↔
      ∃ after, guarded session.contended linkChunk link session.catalog = .ok after := by
  constructor
  · intro hok
    cases hlink : guarded session.contended linkChunk link session.catalog with
    | ok after => exact ⟨after, rfl⟩
    | error error =>
      rw [perform_call_of_error hlink] at hok
      contradiction
  · rintro ⟨after, hlink⟩
    rw [perform_call_of_ok hlink]

end single

/-- A single link can be added if its place is taken, or if the NAR file and the chunk are there;
but not while another connection has the write lock. -/
theorem perform_link_eq_ok_iff (session : Session) (now : Time.Timestamp)
    (narFile chunk index : Int) :
    (session.perform now (.write (.linkFileToChunk narFile chunk index))).1 = .ok .done ↔
      session.contended = false ∧
        ((∃ link ∈ session.catalog.chunkLinks, link.narFile = narFile ∧ link.index = index) ∨
          (∃ row ∈ session.catalog.narFiles, row.id = narFile) ∧
            ∃ row ∈ session.catalog.chunks, row.id = chunk) := by
  refine (@perform_call_eq_ok session ⟨narFile, chunk, index⟩ now).trans ?_
  cases hlock : session.contended with
  | true =>
    constructor
    · rintro ⟨after, hafter⟩
      contradiction
    · rintro ⟨hfree, -⟩
      contradiction
  | false =>
    rw [guarded_false, Catalog.linkChunk_succeeds_iff]
    simp [Catalog.linkAt?, Catalog.hasNarFile, Catalog.hasChunk]

/-! ## link after link -/

/-- The tables after links have come in one after the other, if the handle can add all of them. -/
def linkEach (session : Session) (links : List ChunkLink) : Except DriverError Catalog :=
  addEach (guarded session.contended linkChunk) links session.catalog

/-! ## all links at once -/

section bulk

variable {session : Session} {narFile : Int} {chunks indices : List Int}

/-- There have to be as many chunks as places. -/
theorem perform_links_of_mismatch (h : chunks.length ≠ indices.length) (now : Time.Timestamp) :
    session.perform now (.write (.linkFileToChunks narFile chunks indices))
      = (.error (.mismatchedInputLengths chunks.length indices.length), session) := by
  rw [perform, Operation.run, Change.run, linkFileToChunks, if_pos h]
  rfl

variable (hlength : chunks.length = indices.length)
include hlength

/-- Links that can be added one by one are added together. -/
theorem perform_links_of_ok {after : Catalog}
    (h : session.linkEach (ChunkLink.asked narFile chunks indices) = .ok after)
    (now : Time.Timestamp) :
    session.perform now (.write (.linkFileToChunks narFile chunks indices))
      = (.ok .done, { session with catalog := after }) := by
  have hadds : addInBatches (session.context now) "link_nar_file_to_chunks" linkChunk
      (ChunkLink.asked narFile chunks indices) session.catalog = (.ok (), after) :=
    addInBatches_of_ok (session.context now) h _
  rw [ChunkLink.asked] at hadds
  rw [perform, Operation.run, Change.run, linkFileToChunks, if_neg (not_not_intro hlength), hadds]
  rfl

/-- A list with a link that cannot be added is refused.  The whole batches before it have been
written by then; they stay if a transaction is open. -/
theorem perform_links_of_error {before rest : List ChunkLink} {link : ChunkLink}
    {between : Catalog} {error : DriverError}
    (hasked : ChunkLink.asked narFile chunks indices = before ++ link :: rest)
    (hbefore : session.linkEach before = .ok between)
    (hfails : guarded session.contended linkChunk link between = .error error)
    (now : Time.Timestamp) :
    ∃ kept,
      session.linkEach (before.take (Sql.wholeBatches before.length)) = .ok kept ∧
      session.perform now (.write (.linkFileToChunks narFile chunks indices))
        = (.error (.ofDriver "link_nar_file_to_chunks" error),
            { session with catalog := if session.isOpen then kept else session.catalog }) := by
  obtain ⟨kept, hkept, hadds⟩ : ∃ kept,
      session.linkEach (before.take (Sql.wholeBatches before.length)) = .ok kept ∧
      addInBatches (session.context now) "link_nar_file_to_chunks" linkChunk
        (before ++ link :: rest) session.catalog
          = (.error (.ofDriver "link_nar_file_to_chunks" error),
              if session.isOpen then kept else session.catalog) :=
    addInBatches_of_error (session.context now) hbefore hfails rest _
  refine ⟨kept, hkept, ?_⟩
  rw [← hasked, ChunkLink.asked] at hadds
  rw [perform, Operation.run, Change.run, linkFileToChunks, if_neg (not_not_intro hlength), hadds]
  rfl

/-- On a plain handle such a list leaves nothing behind. -/
theorem perform_links_of_error_of_plain (plain : session.saved = none) {error : DriverError}
    (h : session.linkEach (ChunkLink.asked narFile chunks indices) = .error error)
    (now : Time.Timestamp) :
    session.perform now (.write (.linkFileToChunks narFile chunks indices))
      = (.error (.ofDriver "link_nar_file_to_chunks" error), session) := by
  have hclosed : session.isOpen = false := by rw [isOpen, plain, Option.isSome_none]
  obtain ⟨before, link, rest, between, hasked, hbefore, hfails⟩ := Catalog.addEach_eq_error h
  obtain ⟨kept, -, hperform⟩ := perform_links_of_error hlength hasked hbefore hfails now
  rw [hperform, hclosed, if_neg Bool.false_ne_true]

/-- Linking a list succeeds just if its links can be added one by one. -/
theorem perform_links_eq_ok (now : Time.Timestamp) :
    (session.perform now (.write (.linkFileToChunks narFile chunks indices))).1 = .ok .done ↔
      ∃ after, session.linkEach (ChunkLink.asked narFile chunks indices) = .ok after := by
  constructor
  · intro hok
    cases hlinks : session.linkEach (ChunkLink.asked narFile chunks indices) with
    | ok after => exact ⟨after, rfl⟩
    | error error =>
      obtain ⟨before, link, rest, between, hasked, hbefore, hfails⟩ :=
        Catalog.addEach_eq_error hlinks
      obtain ⟨kept, -, hperform⟩ := perform_links_of_error hlength hasked hbefore hfails now
      rw [hperform] at hok
      contradiction
  · rintro ⟨after, hlinks⟩
    rw [perform_links_of_ok hlength hlinks]

end bulk

/-! ## call after call -/

section calls

variable {session : Session} {operations : List (Time.Timestamp × Operation)}
  {links : List ChunkLink}

/-- A call brings the links that it asks for, if they can be added. -/
theorem perform_of_asked {operation : Operation} {after : Catalog}
    (hasked : operation.asked? = some links) (h : session.linkEach links = .ok after)
    (now : Time.Timestamp) :
    session.perform now operation = (.ok .done, { session with catalog := after }) := by
  cases operation with
  | read query => contradiction
  | write change =>
    cases change with
    | linkFileToChunk narFile chunk index =>
      cases hasked
      obtain ⟨between, hlink, hrest⟩ := bind_eq_ok h
      cases hrest
      exact perform_call_of_ok hlink now
    | linkFileToChunks narFile chunks indices =>
      obtain ⟨hlength, heq⟩ := Option.ite_none_right_eq_some.1 hasked
      cases heq
      exact perform_links_of_ok hlength h now
    | _ => contradiction

/-- Calls bring all the links that they ask for, if these can be added one after the other. -/
theorem calls_of_askedBy {after : Catalog}
    (hasked : ∀ call ∈ operations, call.2.asked?.isSome)
    (h : session.linkEach (askedBy operations) = .ok after) :
    session.AllSucceed operations ∧
      session.after (Event.calls operations) = { session with catalog := after } := by
  -- on the calls: the rest of them meets the tables that the first one has left
  induction operations generalizing session with
  | nil =>
    cases h
    exact ⟨session.allSucceed_nil, rfl⟩
  | cons call operations ih =>
    obtain ⟨now, operation⟩ := call
    obtain ⟨hcall, hcalls⟩ := List.forall_mem_cons.1 hasked
    obtain ⟨links, hlinks⟩ := Option.isSome_iff_exists.1 hcall
    have hcons : askedBy ((now, operation) :: operations) = links ++ askedBy operations := by
      simp [askedBy, hlinks]
    rw [linkEach, hcons] at h
    obtain ⟨between, hfirst, hrest⟩ := Catalog.addEach_of_append h
    have hperform := perform_of_asked hlinks hfirst now
    obtain ⟨hall, hafter⟩ := @ih { session with catalog := between } hcalls hrest
    rw [after_calls_cons, allSucceed_cons, hperform]
    exact ⟨⟨⟨.done, rfl⟩, hall⟩, hafter⟩

/-- Links that can be added one after the other are added so by calls of their own. -/
theorem calls_of_linkEach {after : Catalog}
    (calls : operations.map (·.2) = links.map ChunkLink.call)
    (h : session.linkEach links = .ok after) :
    session.AllSucceed operations ∧
      session.after (Event.calls operations) = { session with catalog := after } := by
  obtain ⟨hasked, hsame⟩ := asked_of_calls calls
  rw [← hsame] at h
  exact calls_of_askedBy hasked h

/-- If links cannot all be added, then calls of their own fail at the first that cannot. -/
theorem firstFailure_of_linkEach {error : DriverError}
    (calls : operations.map (·.2) = links.map ChunkLink.call)
    (h : session.linkEach links = .error error) :
    session.FirstFailure operations (.ofDriver "link_nar_file_to_chunk" error) := by
  obtain ⟨before, link, rest, between, rfl, hbefore, hfails⟩ := Catalog.addEach_eq_error h
  rw [List.map_append, List.map_cons] at calls
  obtain ⟨front, back, rfl, hfront, hback⟩ := List.map_eq_append_iff.1 calls
  obtain ⟨⟨now, operation⟩, back, rfl, rfl, -⟩ := List.map_eq_cons_iff.1 hback
  obtain ⟨hall, hafter⟩ := calls_of_linkEach hfront hbefore
  refine ⟨front, now, link.call, back, rfl, hall, ?_⟩
  rw [hafter, @perform_call_of_error { session with catalog := between } link error hfails]

end calls

/-! ## a list is its links -/

/-- The kind of an error of the driver is the same in every operation. -/
theorem kind_ofDriver (during during' : String) (source : DriverError) :
    (StoreError.ofDriver during source).kind = (StoreError.ofDriver during' source).kind := by
  unfold StoreError.ofDriver
  split <;> rfl

section plain

variable {session : Session} (plain : session.saved = none)
  {operations : List (Time.Timestamp × Operation)}
include plain

/-- Calls do not all succeed if one of them is the first that fails. -/
theorem FirstFailure.not_allSucceed {error : StoreError}
    (h : session.FirstFailure operations error) : ¬ session.AllSucceed operations := by
  intro hall
  have hresult := (withTransaction_of_firstFailure plain h).1
  rw [withTransaction_of_allSucceed plain hall] at hresult
  contradiction

/-- There is one error with which calls fail first. -/
theorem FirstFailure.unique {error other : StoreError}
    (h : session.FirstFailure operations error) (hother : session.FirstFailure operations other) :
    error = other := by
  have hresult := (withTransaction_of_firstFailure plain h).1
  rw [(withTransaction_of_firstFailure plain hother).1] at hresult
  exact (Except.error.inj hresult).symm

/-- A list of links does what its links do by calls of their own, and the number of batches that it
takes does not show.

* A single link can be added just when its place is taken, or the NAR file and the chunk are there;
  while another connection has the write lock, none can.
* Lists of different lengths are refused with both lengths, and nothing changes.
* If all calls with one link each succeed, at whatever times they come, so does the list, and it
  leaves what they leave.  If one of them fails, the list fails for the reason of the first that
  does, and nothing changes. -/
theorem linkFileToChunks_folds_links (narFile : Int) (now : Time.Timestamp) :
    (∀ chunk index,
      (session.perform now (.write (.linkFileToChunk narFile chunk index))).1 = .ok .done ↔
        session.contended = false ∧
          ((∃ link ∈ session.catalog.chunkLinks, link.narFile = narFile ∧ link.index = index) ∨
            (∃ row ∈ session.catalog.narFiles, row.id = narFile) ∧
              ∃ row ∈ session.catalog.chunks, row.id = chunk)) ∧
    ∀ chunks indices : List Int,
      let list := session.perform now (.write (.linkFileToChunks narFile chunks indices))
      (chunks.length ≠ indices.length →
        list = (.error (.mismatchedInputLengths chunks.length indices.length), session)) ∧
      (chunks.length = indices.length →
        ∀ operations : List (Time.Timestamp × Operation),
          operations.map (·.2)
              = (List.zipWith (Change.linkFileToChunk narFile) chunks indices).map .write →
          (session.AllSucceed operations →
            list = (.ok .done, session.after (Event.calls operations))) ∧
          ∀ error, session.FirstFailure operations error → ∃ cause,
            error = .ofDriver "link_nar_file_to_chunk" cause ∧
            list = (.error (.ofDriver "link_nar_file_to_chunks" cause), session) ∧
            (StoreError.ofDriver "link_nar_file_to_chunks" cause).kind = error.kind) := by
  refine ⟨perform_link_eq_ok_iff session now narFile, fun chunks indices => ?_⟩
  intro list
  refine ⟨fun hlength => perform_links_of_mismatch hlength now, ?_⟩
  intro hlength operations calls
  rw [← ChunkLink.map_call_asked] at calls
  cases hlinks : session.linkEach (ChunkLink.asked narFile chunks indices) with
  | ok after =>
    obtain ⟨hall, hafter⟩ := calls_of_linkEach calls hlinks
    refine ⟨fun _ => ?_, fun error hfirst => ?_⟩
    · rw [hafter]
      exact perform_links_of_ok hlength hlinks now
    · exact absurd hall (hfirst.not_allSucceed plain)
  | error cause =>
    have hfails := firstFailure_of_linkEach calls hlinks
    refine ⟨fun hall => absurd hall (hfails.not_allSucceed plain), fun error hfirst => ?_⟩
    obtain rfl := hfirst.unique plain hfails
    exact ⟨cause, rfl, perform_links_of_error_of_plain hlength plain hlinks now,
      kind_ofDriver _ _ cause⟩

end plain

/-- Links to one place fill a batch, and another link to it is in the next batch; a list that ends
with a link to a chunk that is not there fails as that link does. -/
theorem linkFileToChunks_folds_links_batches :
    let session := (fresh .sqlite).after
      [.call .epoch (.write (.createNarFile ⟨⟨"a", "xz", ""⟩, 7, 0⟩)),
        .call .epoch (.write (.createChunk "c" 7)), .call .epoch (.write (.createChunk "d" 7))]
    let calls (chunks indices : List Int) : List (Time.Timestamp × Operation) :=
      (List.zipWith (Change.linkFileToChunk 1) chunks indices).map fun link =>
        (.epoch, .write link)
    let list (chunks indices : List Int) :=
      session.perform .epoch (.write (.linkFileToChunks 1 chunks indices))
    let chunks : List Int := List.replicate 300 1 ++ [2, 2]
    let indices : List Int := List.replicate 300 0 ++ [0, 1]
    let error := StoreError.ofDriver "link_nar_file_to_chunk" .foreignKeyViolated
    session.saved = none ∧ session.AllSucceed (calls chunks indices) ∧
      list chunks indices = (.ok .done, session.after (Event.calls (calls chunks indices))) ∧
      session.FirstFailure (calls (chunks ++ [3]) (indices ++ [2])) error ∧
      ∃ failure, list (chunks ++ [3]) (indices ++ [2]) = (.error failure, session) ∧
        failure.kind = error.kind := by
  intro session calls list chunks indices error
  have plain : session.saved = none := rfl
  have hcalls : ∀ chunks indices, (calls chunks indices).map (·.2)
      = (List.zipWith (Change.linkFileToChunk 1) chunks indices).map .write := by
    intro chunks indices
    rw [List.map_map]
    rfl
  have hall : session.AllSucceed (calls chunks indices) := by
    unfold AllSucceed
    decide +kernel
  have hfirst : session.FirstFailure (calls (chunks ++ [3]) (indices ++ [2])) error := by
    refine ⟨calls chunks indices, .epoch, .write (.linkFileToChunk 1 3 2), [], ?_, hall, ?_⟩
    · decide +kernel
    · decide +kernel
  obtain ⟨-, hlists⟩ := linkFileToChunks_folds_links plain 1 .epoch
  have hlist := (hlists chunks indices).2 (by decide +kernel) _ (hcalls _ _)
  have hlonger := (hlists (chunks ++ [3]) (indices ++ [2])).2 (by decide +kernel) _
    (hcalls _ _)
  obtain ⟨cause, -, hfails, hkind⟩ := hlonger.2 error hfirst
  exact ⟨plain, hall, hlist.1 hall, hfirst, _, hfails, hkind⟩

end Session

end Store

end NarIndex
