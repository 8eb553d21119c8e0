import NarIndex.Proofs.Store.Access
import NarIndex.Proofs.Store.Errand

/-!
# NarIndex.Proofs.Store.Filling

Creating a NarInfo whose hash is taken.  A draft with a URL fills a placeholder, and then creating
is updating: the answer is the same, and so are the tables.  Any other row stays as it is
(`Session.Reachable.create_fills_as_update`).
-/

namespace NarIndex.Store.Session

open Catalog (Singled kept InRange nextId)

variable {session : Session} {draft : NarInfo.Draft} {now : Time.Timestamp}

/-- The handle with other NarInfos. -/
def withNarInfos (session : Session) (rows : List (NarInfo Catalog.Value)) : Session :=
  { session with catalog := { session.catalog with narInfos := rows } }

/-! ## calls that are refused -/

/-- Creating and updating look at the sizes of a draft first. -/
theorem perform_of_not_isStorable (rejected : draft.isStorable = false) :
    ∃ text,
      session.perform now (.write (.createNarInfo draft)) = (.error (.internal text), session) ∧
      session.perform now (.write (.updateNarInfo draft)) = (.error (.internal text), session) := by
  obtain ⟨text, herror⟩ := NarInfo.Draft.detailsOf_of_not_isStorable rejected
  refine ⟨text, ?_, ?_⟩
  · rw [perform, Operation.run, Change.run, Store.createNarInfo, herror]
    rfl
  · rw [perform, Operation.run, Change.run, Store.updateNarInfo, herror]
    rfl

/-- Under contention a storable draft creates nothing. -/
theorem perform_createNarInfo_of_contended (contended : session.contended = true)
    (accepted : draft.isStorable) :
    session.perform now (.write (.createNarInfo draft))
      = (.error (.ofDriver "create_nar_info" .locked), session) := by
  have hlocked := @createNarInfo_of_contended (session.context now) session.catalog contended draft
    accepted
  rw [perform, Operation.run, Change.run, hlocked]
  rfl

theorem perform_updateNarInfo_of_contended (contended : session.contended = true)
    (accepted : draft.isStorable) :
    session.perform now (.write (.updateNarInfo draft))
      = (.error (.ofDriver "query" .locked), session) :=
  perform_errand_of_contended rfl accepted contended

/-! ## a row that is there -/

section present

variable {old : NarInfo Int} {front back : List (NarInfo Catalog.Value)}
  (free : session.contended = false) (accepted : draft.isStorable)
  (hold : Singled (·.hash == draft.hash) session.catalog.narInfos front (kept old) back)
  (hrange : InRange old)
include free accepted hold hrange

/-- An update replaces the row at its place. -/
theorem perform_updateNarInfo_of_singled :
    session.perform now (.write (.updateNarInfo draft))
      = (.ok (.narInfo (old.amended draft.details now.micros)),
          session.withNarInfos (front ++ kept (old.amended draft.details now.micros) :: back)) := by
  have hfits := inRange_of_detailsOf (NarInfo.Draft.detailsOf_of_isStorable accepted)
  have hread := Catalog.read_kept (NarInfo.inRange_amended hfits hrange now)
  have hpresent : session.catalog.narInfoByHash? draft.hash = some (kept old) := hold.find?_eq
  have hamend : (kept old).amended draft.details.kept (.integer now.micros)
      = kept (old.amended draft.details now.micros) := rfl
  rw [perform_updateNarInfo free accepted, hpresent, Option.map_some, hamend, found, hread,
    Catalog.withAmended, hold.mapWhere_eq, hamend]
  rfl

/-- What creating does to the row, it does at its place. -/
theorem perform_createNarInfo_of_singled :
    session.perform now (.write (.createNarInfo draft))
      = (.ok (.narInfo (old.merged draft.details now.micros)),
          session.withNarInfos (front ++ kept (old.merged draft.details now.micros) :: back)) := by
  rw [perform_createNarInfo_of_some free accepted hold.find?_eq hrange, Catalog.withMerged,
    hold.mapWhere_eq, NarInfo.kept_merged]
  rfl

/-- Creating is updating if the draft fills the row, and changes nothing else. -/
theorem perform_createNarInfo_eq_ite :
    session.perform now (.write (.createNarInfo draft))
      = if old.details.url = none ∧ draft.url ≠ none then
          session.perform now (.write (.updateNarInfo draft))
        else (.ok (.narInfo old), session) := by
  have hfills : old.isFilledBy draft.details ↔ old.details.url = none ∧ draft.url ≠ none := by
    simp [NarInfo.isFilledBy, NarInfo.Draft.details, Option.isSome_iff_ne_none]
  rw [perform_createNarInfo_of_singled free accepted hold hrange,
    perform_updateNarInfo_of_singled free accepted hold hrange, NarInfo.merged_eq]
  by_cases hfilled : old.isFilledBy draft.details
  · rw [if_pos hfilled, if_pos (hfills.1 hfilled)]
  · rw [if_neg hfilled, if_neg (mt hfills.2 hfilled), withNarInfos, ← hold.rows_eq]

end present

/-- Creating and updating agree on how a row is filled.

* A draft with a size that is not storable is refused by both in the same words, and nothing
  changes.
* Else both fail while another connection has the write lock, and nothing changes.
* Else, if the hash is absent, creating adds a row with what the draft says, and updating finds
  none.  If it is not, updating replaces all that the draft tells of the row, and creating does the
  same if the row has no URL and the draft has one; otherwise it yields the row and changes
  nothing. -/
theorem Reachable.create_fills_as_update (h : session.Reachable) (draft : NarInfo.Draft)
    (now : Time.Timestamp) :
    let create := session.perform now (.write (.createNarInfo draft))
    let update := session.perform now (.write (.updateNarInfo draft))
    let rows := session.catalog.narInfos
    (draft.isStorable = false → ∃ text,
      create = (.error (.internal text), session) ∧
      update = (.error (.internal text), session)) ∧
    (draft.isStorable → session.contended = true →
      create = (.error (.ofDriver "create_nar_info" .locked), session) ∧
      update = (.error (.ofDriver "query" .locked), session)) ∧
    (draft.isStorable → session.contended = false →
      (session.Lacks (.narInfoByHash draft.hash) ∧
        (let new : NarInfo Int :=
          ⟨nextId (rows.map (·.id)), draft.hash, draft.details, now.micros, none, now.micros⟩
        create = (.ok (.narInfo new), session.withNarInfos (rows ++ [kept new]))) ∧
        update = (.error (.notFound "narinfo" draft.hash), session)) ∨
      ∃ old front back, session.Answers (.narInfoByHash draft.hash) (.narInfo old) ∧
        rows = front ++ kept old :: back ∧
        (let filled : NarInfo Int :=
          { old with
            details := draft.details, updatedAt := some now.micros, lastAccessedAt := now.micros }
        update = (.ok (.narInfo filled), session.withNarInfos (front ++ kept filled :: back))) ∧
        create = if old.details.url = none ∧ draft.url ≠ none then update
          else (.ok (.narInfo old), session)) := by
  intro create update rows
  refine ⟨perform_of_not_isStorable, fun accepted contended => ?_, fun accepted free => ?_⟩
  · exact ⟨perform_createNarInfo_of_contended contended accepted,
      perform_updateNarInfo_of_contended contended accepted⟩
  · have hformed := h.wellFormed.catalog
    rcases Catalog.none_or_singled hformed.narInfos.keys_nodup draft.hash with
      hnone | ⟨front, row, back, hrow⟩
    · left
      have habsent : session.catalog.narInfoByHash? draft.hash = none := by
        simpa [Catalog.narInfoByHash?] using hnone
      have hlacks : session.Lacks (.narInfoByHash draft.hash) := by
        refine lacks_iff.2 ⟨"narinfo", draft.hash, ?_⟩
        rw [Query.answer, narInfoByHash, habsent]
        rfl
      exact ⟨hlacks, perform_createNarInfo_of_none free accepted habsent now,
        perform_updateNarInfo_of_misses free accepted rfl hnone⟩
    · right
      have hmem : row ∈ session.catalog.narInfos := by simp [hrow.rows_eq]
      obtain ⟨old, rfl, hrange⟩ := hformed.narInfos.sound row hmem
      have hanswers : session.Answers (.narInfoByHash draft.hash) (.narInfo old) :=
        (Access.narInfos.answers_byKey hformed).2 ⟨⟨hmem, hrange⟩, eq_of_beq hrow.meets⟩
      exact ⟨old, front, back, hanswers, hrow.rows_eq,
        perform_updateNarInfo_of_singled free accepted hrow hrange,
        perform_createNarInfo_eq_ite free accepted hrow hrange⟩

/-- A placeholder among other rows, filled by a draft with an empty URL; the same draft once more; a
hash that is absent; and a size that is not storable. -/
theorem create_fills_as_update_placeholder :
    let session := (fresh .sqlite).after
      [.call .epoch (.write (.createNarInfo (placeholder "a"))),
        .call .epoch (.write (.createNarInfo { hash := "b", storePath := some "/s" })),
        .call .epoch (.write (.createNarInfo (placeholder "c")))]
    let draft : NarInfo.Draft := { hash := "b", url := some "", narSize := some 5 }
    let absent : NarInfo.Draft := { draft with hash := "d" }
    let large : NarInfo.Draft := { draft with narSize := some 9223372036854775808 }
    let create (session : Session) (draft : NarInfo.Draft) :=
      session.perform .epoch (.write (.createNarInfo draft))
    let update (session : Session) (draft : NarInfo.Draft) :=
      session.perform .epoch (.write (.updateNarInfo draft))
    let filled := (create session draft).2
    session.Reachable ∧ create session draft = update session draft ∧
      (∃ row, create filled draft = (.ok (.narInfo row), filled)) ∧
      update session absent = (.error (.notFound "narinfo" "d"), session) ∧
      ∃ text, create session large = (.error (.internal text), session) := by
  intro session draft absent large create update filled
  have h : session.Reachable := (Reachable.fresh .sqlite).after _
  have hfilled : filled.Reachable := h.handle (.call .epoch (.write (.createNarInfo draft)))
  -- the row before and after it is filled
  have hbefore : session.Answers (.narInfoByHash "b")
      (.narInfo ⟨2, "b", { storePath := some "/s" }, 0, none, 0⟩) :=
    answers_iff.2 (by decide +kernel)
  have hafter : filled.Answers (.narInfoByHash "b")
      (.narInfo ⟨2, "b", { url := some "", narSize := some 5 }, 0, some 0, 0⟩) :=
    answers_iff.2 (by decide +kernel)
  obtain ⟨text, hlarge, -⟩ := (h.create_fills_as_update large .epoch).1 (by decide)
  refine ⟨h, ?_, ?_, ?_, text, hlarge⟩
  · rcases (h.create_fills_as_update draft .epoch).2.2 (by decide) rfl with
      ⟨hlacks, -⟩ | ⟨old, front, back, hold, -, -, hcreate⟩
    · exact absurd hlacks hbefore.not_lacks
    · obtain rfl := Answer.narInfo.inj (hold.unique hbefore)
      exact hcreate
  · rcases (hfilled.create_fills_as_update draft .epoch).2.2 (by decide) rfl with
      ⟨hlacks, -⟩ | ⟨old, front, back, hold, -, -, hcreate⟩
    · exact absurd hlacks hafter.not_lacks
    · obtain rfl := Answer.narInfo.inj (hold.unique hafter)
      exact ⟨_, hcreate⟩
  · rcases (h.create_fills_as_update absent .epoch).2.2 (by decide) rfl with
      ⟨-, -, hupdate⟩ | ⟨old, front, back, hold, -⟩
    · exact hupdate
    · have hlacks : session.Lacks (.narInfoByHash "d") :=
        lacks_iff.2 ⟨"narinfo", "d", by decide +kernel⟩
      exact absurd hlacks hold.not_lacks

end NarIndex.Store.Session
