import NarIndex.Proofs.Store.Attachments
import NarIndex.Proofs.Store.Places

/-!
# NarIndex.Proofs.Store.Joined

Lists that fail within a transaction.  A plain handle takes back what a list wrote before it failed;
a call that joins a transaction leaves that to the owner of the transaction, who may go on and
commit.  A list of texts leaves nothing behind even so, since only its first text can fail
(`Reachable.perform_of_not_accepts`).  A list of links leaves what the whole batches before the
failing link brought (`Reachable.failed_list_leaves_batches`).
-/

namespace NarIndex.Store.Session

open Catalog (addEach linkChunk)
open ChunkLink (asked)

variable {session later : Session} {narFile : Int} {chunks indices : List Int}

/-- What is asked for in the front of two lists. -/
theorem take_asked (narFile : Int) (chunks indices : List Int) (n : Nat) :
    asked narFile (chunks.take n) (indices.take n) = (asked narFile chunks indices).take n :=
  List.take_zipWith.symm

/-- The places that links lead to are taken if something is in place at each of them. -/
theorem Reachable.taken_iff (h : session.Reachable) (hlength : chunks.length = indices.length) :
    (∀ link ∈ asked narFile chunks indices,
        (session.catalog.linkAt? link.narFile link.index).isSome) ↔
      ∀ index ∈ indices, ∃ held, session.InPlace narFile index held := by
  induction chunks generalizing indices with
  | nil =>
    obtain rfl := List.length_eq_zero_iff.1 hlength.symm
    simp [asked]
  | cons chunk chunks ih =>
    obtain ⟨index, indices, rfl⟩ := List.exists_cons_of_length_eq_add_one hlength.symm
    have hplace : (session.catalog.linkAt? narFile index).isSome ↔
        ∃ held, session.InPlace narFile index held := by
      simp [h.inPlace_iff, Option.isSome_iff_exists]
    rw [asked, List.zipWith_cons_cons, List.forall_mem_cons, List.forall_mem_cons, hplace]
    exact and_congr_right fun _ => ih (Nat.succ.inj hlength)

/-- A list of links that succeeds changes nothing just when all its places were taken. -/
theorem Reachable.links_eq_self_iff (h : session.Reachable)
    (hlength : chunks.length = indices.length) {now : Time.Timestamp}
    (hperform : session.perform now (.write (.linkFileToChunks narFile chunks indices))
      = (.ok .done, later)) :
    later = session ↔ ∀ index ∈ indices, ∃ held, session.InPlace narFile index held := by
  obtain ⟨after, hlinks⟩ := (perform_links_eq_ok hlength now).1 (congrArg Prod.fst hperform)
  rw [perform_links_of_ok hlength hlinks] at hperform
  cases hperform
  rw [← h.taken_iff hlength, ← Catalog.addEach_linkChunk_eq_self (addEach_of_guarded hlinks)]
  constructor
  · intro hsame
    exact congrArg Session.catalog hsame
  · intro hsame
    rw [hsame]

/-- The call with the front of two lists that a list of links has. -/
def linkFront (narFile : Int) (chunks indices : List Int) (n : Nat) : Operation :=
  .write (.linkFileToChunks narFile (chunks.take n) (indices.take n))

/-- A list of links that fails within a transaction stops at one of them.  The list up to there can
be added, and what stays is what its whole batches bring. -/
theorem exists_failing_link (opened : session.isOpen) (hlength : chunks.length = indices.length)
    {now : Time.Timestamp} {error : StoreError}
    (hperform : session.perform now (.write (.linkFileToChunks narFile chunks indices))
      = (.error error, later)) :
    ∃ position < chunks.length,
      let front n := session.perform now (linkFront narFile chunks indices n)
      (front position).1 = .ok .done ∧ (front (position + 1)).1 = .error error ∧
        front (Sql.wholeBatches position) = (.ok .done, later) := by
  have hlengths : ∀ n, (chunks.take n).length = (indices.take n).length := by
    intro n
    rw [List.length_take, List.length_take, hlength]
  cases hlinks : session.linkEach (asked narFile chunks indices) with
  | ok after =>
    rw [perform_links_of_ok hlength hlinks] at hperform
    cases hperform
  | error cause =>
    obtain ⟨before, link, rest, between, hasked, hbefore, hfails⟩ :=
      Catalog.addEach_eq_error hlinks
    obtain ⟨kept, hkept, hlist⟩ := perform_links_of_error hlength hasked hbefore hfails now
    rw [hlist, if_pos opened] at hperform
    cases hperform
    have hposition : before.length < chunks.length := by
      have hcount := congrArg List.length hasked
      simp [asked, ← hlength] at hcount
      omega
    refine ⟨before.length, hposition, ?_, ?_, ?_⟩
    · refine (perform_links_eq_ok (hlengths _) now).2 ⟨between, ?_⟩
      rw [take_asked, hasked, List.take_left]
      exact hbefore
    · have hnext : asked narFile (chunks.take (before.length + 1))
          (indices.take (before.length + 1)) = before ++ [link] := by
        rw [take_asked, hasked, List.take_append, List.take_of_length_le (Nat.le_succ _),
          Nat.add_sub_cancel_left]
        rfl
      obtain ⟨stays, -, hstops⟩ := perform_links_of_error (hlengths _) hnext hbefore hfails now
      exact congrArg Prod.fst hstops
    · refine perform_links_of_ok (hlengths _) ?_ now
      rw [take_asked, hasked, List.take_append_of_le_length (Sql.wholeBatches_le _)]
      exact hkept

/-- What a call that takes a list leaves behind if it fails within a transaction.

* A call that adds references or signatures leaves nothing.
* Lists of chunks and places of different lengths leave nothing either.  Otherwise the call has
  stopped at one of the links.  The links up to there can be added; those of them that fill whole
  batches have been added, and stay, so that the call has left nothing just when all places of
  these were taken before.  A list that is not longer than a batch has left nothing. -/
theorem Reachable.failed_list_leaves_batches (h : session.Reachable) (opened : session.isOpen)
    (now : Time.Timestamp) :
    (∀ operation addition error later, operation.addition? = some addition →
      session.perform now operation = (.error error, later) → later = session) ∧
    ∀ narFile chunks indices error later,
      session.perform now (.write (.linkFileToChunks narFile chunks indices))
          = (.error error, later) →
        chunks.length ≠ indices.length ∧ later = session ∨
        chunks.length = indices.length ∧ ∃ position < chunks.length,
          let front n := session.perform now (linkFront narFile chunks indices n)
          (front position).1 = .ok .done ∧ (front (position + 1)).1 = .error error ∧
            front (Sql.wholeBatches position) = (.ok .done, later) ∧
            (later = session ↔ ∀ index ∈ indices.take (Sql.wholeBatches position),
              ∃ held, session.InPlace narFile index held) ∧
            (chunks.length ≤ Sql.batchRows → later = session) := by
  constructor
  · intro operation addition error later hadds hperform
    have hrefused : ¬ session.Accepts addition := by
      intro haccepted
      obtain ⟨new, -, -, hok⟩ := perform_of_accepts hadds haccepted now
      rw [hok] at hperform
      cases hperform
    obtain ⟨cause, hfails⟩ := h.perform_of_not_accepts hadds hrefused now
    rw [hfails] at hperform
    cases hperform
    rfl
  · intro narFile chunks indices error later hperform
    by_cases hlength : chunks.length = indices.length
    · obtain ⟨position, hposition, hbefore, hstops, hstays⟩ :=
        exists_failing_link opened hlength hperform
      have hfront : (chunks.take (Sql.wholeBatches position)).length
          = (indices.take (Sql.wholeBatches position)).length := by
        rw [List.length_take, List.length_take, hlength]
      have hnothing := h.links_eq_self_iff hfront hstays
      refine .inr ⟨hlength, position, hposition, hbefore, hstops, hstays, hnothing, ?_⟩
      intro hshort
      have hnone : Sql.wholeBatches position = 0 :=
        Sql.wholeBatches_of_lt (Nat.lt_of_lt_of_le hposition hshort)
      rw [hnothing, hnone]
      simp
    · rw [perform_links_of_mismatch hlength] at hperform
      cases hperform
      exact .inl ⟨hlength, rfl⟩

/-- Within a transaction, links that fill a batch and a link to a chunk that is not there: the batch
stays. -/
theorem failed_list_leaves_batches_first :
    let session := (fresh .sqlite).after
      [.call .epoch (.write (.createNarFile ⟨⟨"a", "xz", ""⟩, 7, 0⟩)),
        .call .epoch (.write (.createChunk "c" 7)), .begin]
    let chunks : List Int := List.replicate 300 1 ++ [2]
    let indices : List Int := List.replicate 300 0 ++ [1]
    let list := session.perform .epoch (.write (.linkFileToChunks 1 chunks indices))
    session.Reachable ∧ session.isOpen ∧
      list.1 = .error (.ofDriver "link_nar_file_to_chunks" .foreignKeyViolated) ∧
      ∃ position < chunks.length,
        session.perform .epoch (linkFront 1 chunks indices (Sql.wholeBatches position))
          = (.ok .done, list.2) := by
  intro session chunks indices list
  have h : session.Reachable := (Reachable.fresh .sqlite).after _
  have opened : session.isOpen := rfl
  have hfails : list.1 = .error (.ofDriver "link_nar_file_to_chunks" .foreignKeyViolated) := by
    decide +kernel
  have hlength : chunks.length = indices.length := by decide +kernel
  rcases (h.failed_list_leaves_batches opened .epoch).2 1 chunks indices _ list.2
    (Prod.ext hfails rfl) with ⟨hmismatch, -⟩ | ⟨-, position, hposition, -, -, hstays, -, -⟩
  · exact absurd hlength hmismatch
  · exact ⟨h, opened, hfails, position, hposition, hstays⟩

/-- Within a transaction, as many links to one place as fill a batch, and a link to a chunk that is
not there: the call fails, and yet its first link is in place, and stays there once the transaction
is committed. -/
theorem linkFileToChunks_left_behind :
    let session := (fresh .sqlite).after
      [.call .epoch (.write (.createNarFile ⟨⟨"a", "xz", ""⟩, 7, 0⟩)),
        .call .epoch (.write (.createChunk "c" 7)), .begin]
    let links : Operation := .write
      (.linkFileToChunks 1 (List.replicate 300 1 ++ [2]) (List.replicate 300 0 ++ [1]))
    let list := session.perform .epoch links
    session.Reachable ∧ session.isOpen ∧
      list.1 = .error (.database "link_nar_file_to_chunks" .foreignKeyViolated) ∧
      list.2 ≠ session ∧ (∀ chunk, ¬ session.InPlace 1 0 chunk) ∧ list.2.InPlace 1 0 1 ∧
      (list.2.after [.commit]).InPlace 1 0 1 := by
  intro session links list
  have h : session.Reachable := (Reachable.fresh .sqlite).after _
  have hlist : list.2.Reachable := h.handle (.call .epoch links)
  have hplace : list.2.InPlace 1 0 1 := hlist.inPlace_iff.2 (by decide +kernel)
  have hcommitted : (list.2.after [.commit]).InPlace 1 0 1 :=
    (hlist.after [.commit]).inPlace_iff.2 (by decide +kernel)
  have hfree : ∀ chunk, ¬ session.InPlace 1 0 chunk := h.not_inPlace (by decide +kernel)
  refine ⟨h, rfl, by decide +kernel, fun hsame => ?_, hfree, hplace, hcommitted⟩
  rw [hsame] at hplace
  exact hfree 1 hplace

end NarIndex.Store.Session
