import NarIndex.Proofs.Store.Places

/-!
# NarIndex.Proofs.Store.Assembly

How a NAR file is put together from chunks.  What calls find at its places, one by one, is what they
list of it in the order of the places (`Session.Assembles`).  Chunks that come to free places can
come in any order, by calls of their own or in lists: whatever calls ask for them, the NAR file is
put together in the same way afterwards (`Session.Reachable.assembly`).
-/

namespace NarIndex.Store

open Catalog (kept)

/-! ## parts -/

/-- A chunk at a place of a NAR file. -/
structure Part where
  place : Int
  chunk : Chunk Int

/-- The link by which a NAR file has a part. -/
def Part.link (narFile : Int) (part : Part) : ChunkLink :=
  ⟨narFile, part.chunk.id, part.place⟩

namespace Session

/-- A NAR file is put together from parts, one for each of its links, and all calls that tell of its
chunks agree on them. -/
structure Assembles (session : Session) (narFile : Int) (parts : List Part) : Prop where
  ascends : (parts.map Part.place).Pairwise (· < ·)
  links : (parts.map (Part.link narFile)).Perm
    (session.catalog.chunkLinks.filter (·.narFile == narFile))
  listed : session.Answers (.chunksOfFile narFile) (.chunks (parts.map Part.chunk))
  placed : ∀ place chunk,
    session.Answers (.chunkAt narFile place) (.chunk chunk) ↔ ⟨place, chunk⟩ ∈ parts
  missing : ∀ place, session.Lacks (.chunkAt narFile place) ↔ place ∉ parts.map Part.place

variable {session : Session} {narFile : Int} {parts : List Part}

section assembles

variable (h : session.catalog.WellFormed)
include h

/-- The links of a NAR file, in the order of the places, come from parts whose chunks are there. -/
theorem exists_parts (narFile : Int) :
    ∃ parts : List Part, session.catalog.placesOf narFile = parts.map (Part.link narFile) ∧
      ∀ part ∈ parts, Held session.catalog.chunks part.chunk := by
  refine Catalog.exists_map_eq fun link hlink => ?_
  obtain ⟨hmem, rfl⟩ := Catalog.mem_placesOf.1 hlink
  obtain ⟨chunk, hchunk, hid⟩ := exists_chunk h hmem
  exact ⟨⟨link.index, chunk⟩, by simp [Part.link, hid], hchunk⟩

variable (hplaces : session.catalog.placesOf narFile = parts.map (Part.link narFile))
  (hheld : ∀ part ∈ parts, Held session.catalog.chunks part.chunk)
include hplaces hheld

/-- The parts are those whose links are there. -/
theorem mem_parts_iff {place : Int} {chunk : Chunk Int} :
    ⟨place, chunk⟩ ∈ parts ↔
      ⟨narFile, chunk.id, place⟩ ∈ session.catalog.chunkLinks ∧
        Held session.catalog.chunks chunk := by
  have hlink : ⟨narFile, chunk.id, place⟩ ∈ parts.map (Part.link narFile) ↔
      ⟨narFile, chunk.id, place⟩ ∈ session.catalog.chunkLinks := by
    rw [← hplaces, Catalog.mem_placesOf]
    simp
  rw [← hlink]
  constructor
  · intro hpart
    exact ⟨List.mem_map_of_mem hpart, hheld _ hpart⟩
  · rintro ⟨hmem, hchunk⟩
    obtain ⟨⟨place', other⟩, hpart, heq⟩ := List.mem_map.1 hmem
    obtain ⟨-, hid, rfl⟩ := ChunkLink.mk.inj heq
    rwa [eq_of_id_eq h.chunks hchunk (hheld _ hpart) hid.symm]

/-- The chunks of a NAR file are those of its parts. -/
theorem chunksOf_eq :
    session.catalog.chunksOf narFile = (parts.map Part.chunk).map kept := by
  rw [Catalog.chunksOf, hplaces, List.filterMap_map, List.map_map, ← List.filterMap_eq_map]
  refine List.filterMap_congr fun part hpart => ?_
  exact h.chunks.find?_id_eq_some.2 ⟨(hheld part hpart).1, rfl⟩

/-- All calls that tell of the chunks of a NAR file agree on its parts. -/
theorem assembles_of_placesOf : session.Assembles narFile parts where
  ascends := by
    have hascends := h.placesOf_ascends narFile
    rw [hplaces, List.pairwise_map] at hascends
    exact List.pairwise_map.2 hascends
  links := by
    rw [← hplaces]
    exact Catalog.placesOf_perm session.catalog narFile
  listed := by
    have hrange : ∀ chunk ∈ parts.map Part.chunk, Catalog.InRange chunk :=
      List.forall_mem_map.2 fun part hpart => (hheld part hpart).2
    have hlisted := listed_kept hrange
    rw [← chunksOf_eq h hplaces hheld] at hlisted
    exact answers_iff.2 (congrArg (Except.map Answer.chunks) hlisted)
  placed place chunk := by
    rw [answers_chunkAt h, mem_parts_iff h hplaces hheld]
  missing place := by
    have hindices : parts.map Part.place
        = (session.catalog.placesOf narFile).map ChunkLink.index := by
      rw [hplaces, List.map_map]
      rfl
    rw [lacks_chunkAt h, Catalog.linkAt?_eq_none, hindices]
    simp [Catalog.mem_placesOf]

end assembles

/-! ## links that can come in any order -/

/-- Links from NAR files and to chunks that are there, to places that are free, one for each
place. -/
structure Admits (session : Session) (links : List ChunkLink) : Prop where
  narFiles : ∀ link ∈ links, ∃ row ∈ session.catalog.narFiles, row.id = link.narFile
  chunks : ∀ link ∈ links, ∃ row ∈ session.catalog.chunks, row.id = link.chunk
  free : ∀ link ∈ links, session.Lacks (.chunkAt link.narFile link.index)
  distinct : (links.map fun link => (link.narFile, link.index)).Nodup

/-- The order of the links does not matter. -/
theorem Admits.perm {links others : List ChunkLink} (h : session.Admits links)
    (same : others.Perm links) : session.Admits others where
  narFiles link hlink := h.narFiles link (same.mem_iff.1 hlink)
  chunks link hlink := h.chunks link (same.mem_iff.1 hlink)
  free link hlink := h.free link (same.mem_iff.1 hlink)
  distinct := (same.map _).nodup_iff.2 h.distinct

/-- The handle after links have come in, and nothing else has changed. -/
def linking (session : Session) (links : List ChunkLink) : Session :=
  { session with
    catalog := { session.catalog with chunkLinks := session.catalog.chunkLinks ++ links } }

/-- Unless another connection has the write lock, such links come in. -/
theorem Reachable.linkEach_of_admits (h : session.Reachable) {links : List ChunkLink}
    (admits : session.Admits links) (free : session.contended = false) :
    session.linkEach links = .ok (session.linking links).catalog := by
  rw [linkEach, free, guarded_false]
  refine Catalog.addEach_linkChunk_of_free (fun link hlink => ?_) admits.distinct
    fun link hlink => ?_
  · exact (lacks_chunkAt h.wellFormed.catalog).1 (admits.free link hlink)
  · have hnarFile := admits.narFiles link hlink
    have hchunk := admits.chunks link hlink
    simpa [Catalog.hasNarFile, Catalog.hasChunk] using ⟨hnarFile, hchunk⟩

/-- Calls that ask for such links, in any order, bring them in. -/
theorem Reachable.calls_of_admits (h : session.Reachable) {links : List ChunkLink}
    (admits : session.Admits links) (free : session.contended = false)
    {operations : List (Time.Timestamp × Operation)}
    (hasked : ∀ call ∈ operations, call.2.asked?.isSome)
    (same : (askedBy operations).Perm links) :
    session.AllSucceed operations ∧
      session.after (Event.calls operations) = session.linking (askedBy operations) :=
  calls_of_askedBy hasked (h.linkEach_of_admits (admits.perm same) free)

/-- Links that have come in, in whatever order, put a NAR file together in the same way. -/
theorem Reachable.assembles_linking {links others : List ChunkLink}
    (hlinks : (session.linking links).Reachable) (hothers : (session.linking others).Reachable)
    (same : others.Perm links)
    (hplaces : (session.linking links).catalog.placesOf narFile = parts.map (Part.link narFile))
    (hheld : ∀ part ∈ parts, Held session.catalog.chunks part.chunk) :
    (session.linking others).Assembles narFile parts := by
  refine assembles_of_placesOf hothers.wellFormed.catalog ?_ hheld
  rw [← hplaces]
  refine hothers.wellFormed.catalog.placesOf_eq hlinks.wellFormed.catalog (fun link => ?_) narFile
  exact (same.append_left session.catalog.chunkLinks).mem_iff

/-- How NAR files are put together.

* The chunks of a NAR file are listed one for each of its links, in strictly ascending order of
  their places; they are the chunks that are found at the places that have a link, and at any other
  place none is found.
* Links to free places come in as they are asked for, by calls with one link each or with lists of
  them, and in any order; and it is the same for every NAR file how it is put together
  afterwards. -/
theorem Reachable.assembly (h : session.Reachable) :
    (∀ narFile, ∃ parts, session.Assembles narFile parts) ∧
    ∀ links, session.Admits links → ∀ narFile, ∃ parts,
      ∀ operations : List (Time.Timestamp × Operation),
        (∀ call ∈ operations, call.2.asked?.isSome) → (askedBy operations).Perm links →
        let later := session.after (Event.calls operations)
        later.Assembles narFile parts ∧
          (session.contended = false →
            session.AllSucceed operations ∧
              ∀ link ∈ links, later.InPlace link.narFile link.index link.chunk) := by
  have hassembles : ∀ narFile, ∃ parts, session.Assembles narFile parts := by
    intro narFile
    obtain ⟨parts, hplaces, hheld⟩ := exists_parts h.wellFormed.catalog narFile
    exact ⟨parts, assembles_of_placesOf h.wellFormed.catalog hplaces hheld⟩
  refine ⟨hassembles, fun links admits narFile => ?_⟩
  cases hlock : session.contended with
  | true =>
    obtain ⟨parts, hparts⟩ := hassembles narFile
    refine ⟨parts, fun operations _ _ => ⟨?_, nofun⟩⟩
    rwa [after_calls_of_contended hlock]
  | false =>
    -- one run settles what the parts are, and any other run has the same links
    let singles := links.map fun link => (Time.Timestamp.epoch, link.call)
    have hsingles : singles.map (·.2) = links.map ChunkLink.call := by simp [singles]
    obtain ⟨hsome, hall⟩ := asked_of_calls hsingles
    have hafter := (h.calls_of_admits admits hlock hsome (.of_eq hall)).2
    have hlinks := h.after (Event.calls singles)
    rw [hafter, hall] at hlinks
    obtain ⟨parts, hplaces, hheld⟩ := exists_parts hlinks.wellFormed.catalog narFile
    refine ⟨parts, fun operations hasked same => ?_⟩
    obtain ⟨hall, hafter⟩ := h.calls_of_admits admits hlock hasked same
    have hothers := h.after (Event.calls operations)
    rw [hafter] at hothers ⊢
    refine ⟨hlinks.assembles_linking hothers same hplaces hheld, fun _ => ⟨hall, ?_⟩⟩
    intro link hlink
    exact hothers.inPlace_iff_mem.2 (List.mem_append_right _ (same.mem_iff.2 hlink))

/-- A chunk that has a place already and comes to two more, one of them before all others; by calls
of their own, and by lists in another order. -/
theorem assembly_shuffled :
    let session := (fresh .sqlite).after
      [.call .epoch (.write (.createNarFile ⟨⟨"a", "xz", ""⟩, 7, 0⟩)),
        .call .epoch (.write (.createChunk "c" 7)), .call .epoch (.write (.createChunk "d" 7)),
        .call .epoch (.write (.linkFileToChunk 1 1 3))]
    let links : List ChunkLink := [⟨1, 2, 0⟩, ⟨1, 1, 9⟩, ⟨1, 1, -5⟩]
    let singles : List (Time.Timestamp × Operation) :=
      [(.epoch, .write (.linkFileToChunk 1 2 0)), (.epoch, .write (.linkFileToChunk 1 1 9)),
        (.epoch, .write (.linkFileToChunk 1 1 (-5)))]
    let lists : List (Time.Timestamp × Operation) :=
      [(.epoch, .write (.linkFileToChunks 1 [] [])),
        (.epoch, .write (.linkFileToChunks 1 [1, 2] [-5, 0])),
        (.epoch, .write (.linkFileToChunk 1 1 9))]
    session.Reachable ∧ session.Admits links ∧ ∃ parts,
      (session.after (Event.calls singles)).Assembles 1 parts ∧
        (session.after (Event.calls lists)).Assembles 1 parts ∧
        (session.after (Event.calls lists)).InPlace 1 (-5) 1 := by
  intro session links singles lists
  have h : session.Reachable := (Reachable.fresh .sqlite).after _
  have hfree : ∀ link ∈ links, session.catalog.linkAt? link.narFile link.index = none := by
    decide +kernel
  have admits : session.Admits links :=
    ⟨by decide +kernel, by decide +kernel,
      fun link hlink => (lacks_chunkAt h.wellFormed.catalog).2 (hfree link hlink), by decide⟩
  obtain ⟨parts, hparts⟩ := h.assembly.2 links admits 1
  obtain ⟨hsingles, -⟩ := hparts singles (by decide) (by decide)
  obtain ⟨hlists, hplaces⟩ := hparts lists (by decide) (by decide)
  have hlinked := (hplaces (by decide +kernel)).2
  exact ⟨h, admits, parts, hsingles, hlists, hlinked ⟨1, 1, -5⟩ (by decide)⟩

end Session

end NarIndex.Store
