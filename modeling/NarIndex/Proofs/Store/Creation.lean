import NarIndex.Proofs.Catalog.Merge
import NarIndex.Proofs.Catalog.NewRow
import NarIndex.Proofs.Store.Sweep

/-!
# NarIndex.Proofs.Store.Creation

Rows that calls create.  A call that creates a row gets through unless a size that it names is out
of range, which is looked at first, or another connection has the write lock; and then, if the
natural key is absent, a row comes in with the next id (`createNarInfo_of_none`,
`createNarFile_of_none`, `createChunk_of_none`).  That id may have been that of a row that has gone,
but nothing of what belonged to it is found any more (`Session.Reachable.newcomers_are_bare`).
-/

namespace NarIndex.Store

open Catalog (nextId)

/-! ## calls -/

section calls

variable {context : Context} {catalog : Catalog}

/-! ### NarInfos -/

section narInfos

variable {draft : NarInfo.Draft}

/-- A NarInfo that is not there comes in with the next id. -/
theorem createNarInfo_of_none (free : context.contended = false) (accepted : draft.isStorable)
    (absent : catalog.narInfoByHash? draft.hash = none) :
    createNarInfo context draft catalog
      = (.ok (.fresh (nextId (catalog.narInfos.map (·.id))) draft.hash draft.details
            context.now.micros),
          (catalog.addNarInfo draft.hash draft.details context.now.micros).2) := by
  have hdetails := NarInfo.Draft.detailsOf_of_isStorable accepted
  have hrange := NarInfo.inRange_fresh (inRange_of_detailsOf hdetails)
    (nextId (catalog.narInfos.map (·.id))) draft.hash context.now
  rw [createNarInfo_eq _ _ hdetails,
    Context.write_ok free (Catalog.mergeNarInfo_of_none absent ..)]
  exact congrArg (·.mapError StoreError.ofQuery, _) (Catalog.read_kept hrange)

/-- Details are merged into a NarInfo that is there. -/
theorem createNarInfo_of_some {row : NarInfo Int} (free : context.contended = false)
    (accepted : draft.isStorable)
    (present : catalog.narInfoByHash? draft.hash = some (Catalog.kept row))
    (hrow : Catalog.InRange row) :
    createNarInfo context draft catalog
      = (.ok (row.merged draft.details context.now.micros),
          catalog.withMerged draft.hash draft.details context.now.micros) := by
  have hdetails := NarInfo.Draft.detailsOf_of_isStorable accepted
  have hrange := NarInfo.inRange_merged (inRange_of_detailsOf hdetails) hrow context.now
  rw [createNarInfo_eq _ _ hdetails,
    Context.write_ok free (Catalog.mergeNarInfo_of_some present ..), NarInfo.kept_merged]
  exact congrArg (·.mapError StoreError.ofQuery, _) (Catalog.read_kept hrange)

end narInfos

/-! ### NAR files -/

section narFiles

variable {draft : NarFile.Draft}

/-- A NAR file that is not there comes in with the next id. -/
theorem createNarFile_of_none (free : context.contended = false) (accepted : draft.isStorable)
    (absent : catalog.narFileByKey? draft.key = none) :
    createNarFile context draft catalog
      = (.ok (.fresh (nextId (catalog.narFiles.map (·.id))) draft.key draft.fileSize.toNat
            draft.totalChunks.toNat context.now.micros),
          (catalog.addNarFile draft.key draft.fileSize.toNat draft.totalChunks.toNat
            context.now.micros).2) := by
  obtain ⟨hsize, hchunks⟩ := Bool.and_eq_true_iff.1 accepted
  have hsize := storable_of_isStorable hsize "file_size"
  have hchunks := storable_of_isStorable hchunks "total_chunks"
  have hrange := NarFile.inRange_fresh (fits_of_storable hsize) (fits_of_storable hchunks)
    (nextId (catalog.narFiles.map (·.id))) draft.key context.now
  rw [createNarFile_eq _ _ hsize hchunks,
    Context.write_ok free (Catalog.mergeNarFile_of_none absent ..)]
  exact congrArg (·.mapError StoreError.ofQuery, _) (Catalog.read_kept hrange)

end narFiles

/-! ### chunks -/

section chunks

variable {hash : String}

/-- A chunk that is not there comes in with the next id. -/
theorem createChunk_of_none (free : context.contended = false)
    (absent : catalog.chunkByHash? hash = none) (size : UInt32) :
    createChunk context hash size catalog
      = (.ok (.fresh (nextId (catalog.chunks.map (·.id))) hash size.toNat context.now.micros),
          (catalog.addChunk hash size.toNat context.now.micros).2) := by
  have hrange := Chunk.inRange_fresh (fits_chunkSize size)
    (nextId (catalog.chunks.map (·.id))) hash context.now
  rw [createChunk_eq, Context.write_ok free (Catalog.mergeChunk_of_none absent ..)]
  exact congrArg (·.mapError StoreError.ofQuery, _) (Catalog.read_kept hrange)

end chunks

end calls

namespace Session

section calls

variable {session : Session}

/-- A NarInfo of a new hash comes in with the next id. -/
theorem perform_createNarInfo_of_none {draft : NarInfo.Draft} (free : session.contended = false)
    (accepted : draft.isStorable) (absent : session.catalog.narInfoByHash? draft.hash = none)
    (now : Time.Timestamp) :
    session.perform now (.write (.createNarInfo draft))
      = (.ok (.narInfo (.fresh (nextId (session.catalog.narInfos.map (·.id))) draft.hash
            draft.details now.micros)),
          { session with
            catalog := (session.catalog.addNarInfo draft.hash draft.details now.micros).2 }) := by
  rw [perform, Operation.run, Change.run, createNarInfo_of_none free accepted absent]
  rfl

/-- A NarInfo of a hash that is taken is merged with the one that is there. -/
theorem perform_createNarInfo_of_some {draft : NarInfo.Draft} {row : NarInfo Int}
    (free : session.contended = false) (accepted : draft.isStorable)
    (present : session.catalog.narInfoByHash? draft.hash = some (Catalog.kept row))
    (hrow : Catalog.InRange row) (now : Time.Timestamp) :
    session.perform now (.write (.createNarInfo draft))
      = (.ok (.narInfo (row.merged draft.details now.micros)),
          { session with
            catalog := session.catalog.withMerged draft.hash draft.details now.micros }) := by
  rw [perform, Operation.run, Change.run, createNarInfo_of_some free accepted present hrow]
  rfl

/-- A NAR file of a new key comes in with the next id. -/
theorem perform_createNarFile_of_none {draft : NarFile.Draft} (free : session.contended = false)
    (accepted : draft.isStorable) (absent : session.catalog.narFileByKey? draft.key = none)
    (now : Time.Timestamp) :
    session.perform now (.write (.createNarFile draft))
      = (.ok (.narFile (.fresh (nextId (session.catalog.narFiles.map (·.id))) draft.key
            draft.fileSize.toNat draft.totalChunks.toNat now.micros)),
          { session with
            catalog := (session.catalog.addNarFile draft.key draft.fileSize.toNat
              draft.totalChunks.toNat now.micros).2 }) := by
  rw [perform, Operation.run, Change.run, createNarFile_of_none free accepted absent]
  rfl

/-- A chunk of a new hash comes in with the next id. -/
theorem perform_createChunk_of_none {hash : String} (free : session.contended = false)
    (absent : session.catalog.chunkByHash? hash = none) (size : UInt32) (now : Time.Timestamp) :
    session.perform now (.write (.createChunk hash size))
      = (.ok (.chunk (.fresh (nextId (session.catalog.chunks.map (·.id))) hash size.toNat
            now.micros)),
          { session with
            catalog := (session.catalog.addChunk hash size.toNat now.micros).2 }) := by
  rw [perform, Operation.run, Change.run, createChunk_of_none free absent size]
  rfl

end calls

/-! ## rows that nothing belongs to -/

/-- Nothing belongs to a NarInfo: the calls that ask for it find no references, no signatures and no
NAR file. -/
structure NarInfoIsBare (session : Session) (id : Int) : Prop where
  references : ∀ now, (session.perform now (.read (.references id))).1 = .ok (.texts [])
  signatures : ∀ now, (session.perform now (.read (.signatures id))).1 = .ok (.texts [])
  narFile : ∀ now, (session.perform now (.read (.narFileOfNarInfo id))).1
    = .error (.notFound "nar file" ("for narinfo " ++ toString id))

/-- Nothing belongs to a NAR file: the calls that ask for it find no chunks and no NarInfos. -/
structure NarFileIsBare (session : Session) (id : Int) : Prop where
  chunks : ∀ now, (session.perform now (.read (.chunksOfFile id))).1 = .ok (.chunks [])
  hashes : ∀ now, (session.perform now (.read (.hashesOfFile id))).1 = .ok (.texts [])

/-- A chunk belongs to no NAR file: it is listed among those that none holds. -/
def ChunkIsBare (session : Session) (row : Chunk Int) : Prop :=
  ∃ rows, row ∈ rows ∧
    ∀ now, (session.perform now (.read .orphanedChunks)).1 = .ok (.chunks rows)

variable {session : Session} (h : session.Reachable)
include h

/-- Nothing belongs to a NarInfo that has come in with the next id. -/
theorem Reachable.narInfoIsBare (hash : String) (details : NarInfo.Details Int) (now : Int) :
    NarInfoIsBare { session with catalog := (session.catalog.addNarInfo hash details now).2 }
      (nextId (session.catalog.narInfos.map (·.id))) := by
  have absent := Catalog.any_nextId (·.id) session.catalog.narInfos
  have hwell := h.wellFormed.catalog
  refine ⟨fun _ => ?_, fun _ => ?_, fun _ => ?_⟩
  · exact congrArg (Except.ok <| Answer.texts ·) (hwell.references_of_absent absent)
  · exact congrArg (Except.ok <| Answer.texts ·) (hwell.signatures_of_absent absent)
  · have hfiles := hwell.filesOf_of_absent absent
    exact congrArg (fun files => (found "nar file" _ (List.head? files)).map Answer.narFile) hfiles

/-- Nothing belongs to a NAR file that has come in with the next id. -/
theorem Reachable.narFileIsBare (key : NarFile.Key) (fileSize totalChunks now : Int) :
    NarFileIsBare
      { session with catalog := (session.catalog.addNarFile key fileSize totalChunks now).2 }
      (nextId (session.catalog.narFiles.map (·.id))) := by
  have absent := Catalog.any_nextId (·.id) session.catalog.narFiles
  have hwell := h.wellFormed.catalog
  refine ⟨fun _ => ?_, fun _ => ?_⟩
  · have hchunks := hwell.chunksOf_of_absent absent
    exact congrArg (fun rows => (listed rows).map Answer.chunks) hchunks
  · exact congrArg (Except.ok <| Answer.texts ·) (hwell.hashesOfFile_of_absent absent)

/-- A chunk that has come in with the next id belongs to no NAR file. -/
theorem Reachable.chunkIsBare {hash : String} (absent : session.catalog.chunkByHash? hash = none)
    (size : UInt32) (now : Time.Timestamp) :
    ChunkIsBare
      { session with catalog := (session.catalog.addChunk hash size.toNat now.micros).2 }
      (.fresh (nextId (session.catalog.chunks.map (·.id))) hash size.toNat now.micros) := by
  have hwell := h.wellFormed.catalog
  have hlater := hwell.edit (.addChunk now absent (fits_chunkSize size))
  have hrange := Chunk.inRange_fresh (fits_chunkSize size)
    (nextId (session.catalog.chunks.map (·.id))) hash now
  have hnext := Catalog.any_nextId (·.id) session.catalog.chunks
  have hlacks : session.catalog.lacksPlace
      (session.catalog.addChunk hash size.toNat now.micros).1 := hwell.lacksPlace_of_absent hnext
  obtain ⟨rows, hlisted, hmem⟩ := exists_listed_mem hlater.chunks
    (List.mem_filter.2 ⟨List.mem_append_right _ List.mem_cons_self, hlacks⟩) hrange
  exact ⟨rows, hmem, fun _ => congrArg (Except.map Answer.chunks) hlisted⟩

omit h

/-! ## rows that come in -/

/-- How a call ends that creates a row: it succeeds if it is `accepted` and there is no contention;
and if it succeeds, what it answers, with the store that it leaves, is as described. -/
structure Creates (session : Session) (now : Time.Timestamp) (change : Change) (accepted : Bool)
    (described : Answer → Session → Prop) : Prop where
  succeeds : session.contended = false → accepted →
    ∃ answer, (session.perform now (.write change)).1 = .ok answer
  answers : ∀ answer, (session.perform now (.write change)).1 = .ok answer →
    described answer (session.perform now (.write change)).2

/-- A call creates a row if it fails when it is rejected, and writes and ends as described when it
is accepted and there is no contention. -/
theorem creates_of_cases {now : Time.Timestamp} {change : Change} {accepted : Bool}
    {described : Answer → Session → Prop} (hwrites : accepted → change.writes)
    (rejected : accepted = false →
      ∃ error, (session.perform now (.write change)).1 = .error error)
    (created : session.contended = false → accepted → ∃ answer later,
      session.perform now (.write change) = (.ok answer, later) ∧ described answer later) :
    Creates session now change accepted described := by
  refine ⟨fun free haccepted => ?_, fun answer hanswer => ?_⟩
  · obtain ⟨answer, later, hperform, -⟩ := created free haccepted
    exact ⟨answer, congrArg (·.1) hperform⟩
  · cases haccepted : accepted with
    | false =>
      obtain ⟨error, herror⟩ := rejected haccepted
      rw [herror] at hanswer
      contradiction
    | true =>
      cases hlock : session.contended with
      | true =>
        have hgoes : (Operation.write change).writes := hwrites haccepted
        obtain ⟨error, herror, -⟩ := perform_of_contended hlock hgoes now
        rw [herror] at hanswer
        contradiction
      | false =>
        obtain ⟨created, later, hperform, hdescribed⟩ := created hlock haccepted
        rw [hperform] at hanswer ⊢
        rwa [← Except.ok.inj hanswer]

/-- Whatever has been deleted from a store, a row that comes in belongs to nothing, and nothing
belongs to it.  A call whose natural key is absent creates a row with the next id, whoever had that
id before.  A NarInfo that it creates has no references, no signatures and no NAR file; a NAR file
that it creates has no chunks and no NarInfos; and a chunk that it creates is listed among those
that no NAR file holds. -/
theorem Reachable.newcomers_are_bare (h : session.Reachable) (now : Time.Timestamp) :
    (∀ draft : NarInfo.Draft, session.catalog.narInfoByHash? draft.hash = none →
      Creates session now (.createNarInfo draft) draft.isStorable fun answer later =>
        ∃ row, answer = .narInfo row ∧ row.hash = draft.hash ∧
          row.id = nextId (session.catalog.narInfos.map (·.id)) ∧ NarInfoIsBare later row.id) ∧
    (∀ draft : NarFile.Draft, session.catalog.narFileByKey? draft.key = none →
      Creates session now (.createNarFile draft) draft.isStorable fun answer later =>
        ∃ row, answer = .narFile row ∧ row.key = draft.key ∧
          row.id = nextId (session.catalog.narFiles.map (·.id)) ∧ NarFileIsBare later row.id) ∧
    ∀ (hash : String) (size : UInt32), session.catalog.chunkByHash? hash = none →
      Creates session now (.createChunk hash size) true fun answer later =>
        ∃ row, answer = .chunk row ∧ row.hash = hash ∧
          row.id = nextId (session.catalog.chunks.map (·.id)) ∧ ChunkIsBare later row := by
  refine ⟨fun draft absent => ?_, fun draft absent => ?_, fun hash size absent => ?_⟩
  · refine creates_of_cases id (fun rejected => ?_) fun free accepted => ?_
    · obtain ⟨text, herror⟩ := createNarInfo_of_not_isStorable rejected
      exact ⟨_, congrArg (·.1.map Answer.narInfo) (herror _ _)⟩
    · exact ⟨_, _, perform_createNarInfo_of_none free accepted absent now, _, rfl, rfl, rfl,
        h.narInfoIsBare draft.hash draft.details now.micros⟩
  · refine creates_of_cases id (fun rejected => ?_) fun free accepted => ?_
    · obtain ⟨text, herror⟩ := createNarFile_of_not_isStorable rejected
      exact ⟨_, congrArg (·.1.map Answer.narFile) (herror _ _)⟩
    · exact ⟨_, _, perform_createNarFile_of_none free accepted absent now, _, rfl, rfl, rfl,
        h.narFileIsBare draft.key draft.fileSize.toNat draft.totalChunks.toNat now.micros⟩
  · refine creates_of_cases id nofun fun free _ => ?_
    exact ⟨_, _, perform_createChunk_of_none free absent size now, _, rfl, rfl, rfl,
      h.chunkIsBare absent size now⟩

/-- Rows that have had relations go by their key, by a sweep and by their id, in a block and
outside, and others come in with their ids. -/
theorem newcomers_are_bare_reused :
    let session := (fresh .sqlite).after [
      .call .epoch (.write (.createNarInfo (placeholder "a"))),
      .call .epoch (.write (.createNarInfo (placeholder "b"))),
      .call .epoch (.write (.createNarFile ⟨{ hash := "x" }, 10, 0⟩)),
      .call .epoch (.write (.createNarFile ⟨{ hash := "y" }, 20, 0⟩)),
      .call .epoch (.write (.createChunk "p" 1)),
      .call .epoch (.write (.createChunk "q" 2)),
      .call .epoch (.write (.addReferences 2 ["r"])),
      .call .epoch (.write (.addSignature 2 "s")),
      .call .epoch (.write (.linkNarInfoToFile 1 1)),
      .call .epoch (.write (.linkNarInfoToFile 2 2)),
      .call .epoch (.write (.linkFileToChunks 2 [1, 2] [0, 1])),
      .block (.ofCalls [(.epoch, .write (.deleteNarInfoByHash "b")),
        (.epoch, .write .deleteOrphanedFiles)]),
      .call .epoch (.write (.deleteChunkById 2))]
    let create (change : Change) := session.perform .epoch (.write change)
    session.Reachable ∧
      (∃ row, (create (.createNarInfo (placeholder "c"))).1 = .ok (.narInfo row) ∧ row.id = 2 ∧
        NarInfoIsBare (create (.createNarInfo (placeholder "c"))).2 row.id) ∧
      (∃ row, (create (.createNarFile ⟨{ hash := "z" }, 30, 0⟩)).1 = .ok (.narFile row) ∧
        row.id = 2 ∧ NarFileIsBare (create (.createNarFile ⟨{ hash := "z" }, 30, 0⟩)).2 row.id) ∧
      ∃ row, (create (.createChunk "t" 3)).1 = .ok (.chunk row) ∧ row.id = 2 ∧
        ChunkIsBare (create (.createChunk "t" 3)).2 row := by
  intro session create
  have h : session.Reachable := (Reachable.fresh .sqlite).after _
  obtain ⟨hnarInfos, hnarFiles, hchunks⟩ := h.newcomers_are_bare .epoch
  refine ⟨h, ?_, ?_, ?_⟩
  · have hcreates := hnarInfos (placeholder "c") (by decide +kernel)
    obtain ⟨answer, hanswer⟩ := hcreates.succeeds rfl rfl
    obtain ⟨row, rfl, -, hid, hbare⟩ := hcreates.answers answer hanswer
    exact ⟨row, hanswer, hid.trans (by decide +kernel), hbare⟩
  · have hcreates := hnarFiles ⟨{ hash := "z" }, 30, 0⟩ (by decide +kernel)
    obtain ⟨answer, hanswer⟩ := hcreates.succeeds rfl rfl
    obtain ⟨row, rfl, -, hid, hbare⟩ := hcreates.answers answer hanswer
    exact ⟨row, hanswer, hid.trans (by decide +kernel), hbare⟩
  · have hcreates := hchunks "t" 3 (by decide +kernel)
    obtain ⟨answer, hanswer⟩ := hcreates.succeeds rfl rfl
    obtain ⟨row, rfl, -, hid, hbare⟩ := hcreates.answers answer hanswer
    exact ⟨row, hanswer, hid.trans (by decide +kernel), hbare⟩

end Session

end NarIndex.Store
