import NarIndex.Proofs.Catalog.Assembly
import NarIndex.Proofs.Store.ChunkLinks

/-!
# NarIndex.Proofs.Store.Places

What is at the places of a NAR file, as calls see it.  A call that brings chunks to places, and
succeeds, leaves at each place what was there before, or, if nothing was, the first chunk that it
asked for there (`Session.KeepsFirst`).  So its success does not mean that the chunks that it asked
for are in place: that is so just when no other chunk was there, and the call did not ask for two
chunks at one place.
-/

namespace NarIndex.Store.Session

open Catalog (Sound kept addEach linkChunk)

variable {session later : Session} {narFile place chunk : Int}

/-! ## what calls find at a place -/

section place

variable (h : session.catalog.WellFormed)
include h

/-- The chunk at the end of a link is there. -/
theorem exists_chunk {link : ChunkLink} (hlink : link ∈ session.catalog.chunkLinks) :
    ∃ row : Chunk Int, Held session.catalog.chunks row ∧ row.id = link.chunk := by
  obtain ⟨row, hrow, hid⟩ := List.any_eq_true.1 (h.chunkLinks.ends_exist link hlink).2
  obtain ⟨r, rfl, hrange⟩ := h.chunks.sound row hrow
  exact ⟨r, ⟨hrow, hrange⟩, eq_of_beq hid⟩

/-- The chunk at a place can be read. -/
theorem sound_of_chunkAt? : ∀ row ∈ session.catalog.chunkAt? narFile place, Sound row := by
  intro row hrow
  obtain ⟨link, -, hrow⟩ := Option.bind_eq_some_iff.1 hrow
  exact h.chunks.sound row (List.mem_of_find?_eq_some hrow)

/-- A call that looks at a place answers with the chunk that is linked there. -/
theorem answers_chunkAt {row : Chunk Int} :
    session.Answers (.chunkAt narFile place) (.chunk row) ↔
      ⟨narFile, row.id, place⟩ ∈ session.catalog.chunkLinks ∧ Held session.catalog.chunks row := by
  refine (answers_of_found rfl (sound_of_chunkAt? h) Access.chunks.answer_injective).trans ?_
  constructor
  · rintro ⟨hat, hrange⟩
    obtain ⟨⟨owner, chunk, index⟩, hlink, hfound⟩ := Option.bind_eq_some_iff.1 hat
    obtain ⟨hmem, rfl, rfl⟩ := h.linkAt?_eq_some.1 hlink
    obtain ⟨hrow, hid⟩ := h.chunks.find?_id_eq_some.1 hfound
    have hchunk : row.id = chunk := hid
    exact ⟨hchunk ▸ hmem, hrow, hrange⟩
  · rintro ⟨hmem, hrow, hrange⟩
    have hlink : session.catalog.linkAt? narFile place = some ⟨narFile, row.id, place⟩ :=
      h.linkAt?_eq_some.2 ⟨hmem, rfl, rfl⟩
    have hfound : session.catalog.chunkById? row.id = some (kept row) :=
      h.chunks.find?_id_eq_some.2 ⟨hrow, rfl⟩
    rw [Catalog.chunkAt?, hlink, Option.bind_some, hfound]
    exact ⟨rfl, hrange⟩

/-- It finds none where nothing is linked. -/
theorem lacks_chunkAt :
    session.Lacks (.chunkAt narFile place) ↔ session.catalog.linkAt? narFile place = none := by
  refine (lacks_of_found rfl (sound_of_chunkAt? h)).trans ?_
  rw [Catalog.chunkAt?]
  cases hplace : session.catalog.linkAt? narFile place with
  | none => simp
  | some link =>
    -- the chunk of a link is there, so that one is found
    obtain ⟨row, hrow, hid⟩ := exists_chunk h (h.linkAt?_eq_some.1 hplace).1
    have hfound : session.catalog.chunkById? link.chunk = some (kept row) :=
      h.chunks.find?_id_eq_some.2 ⟨hrow.1, hid⟩
    simp [hfound]

end place

/-! ## what is in place -/

/-- A call that looks at a place of a NAR file answers with the chunk of an id. -/
def InPlace (session : Session) (narFile place chunk : Int) : Prop :=
  ∃ row : Chunk Int, session.Answers (.chunkAt narFile place) (.chunk row) ∧ row.id = chunk

/-- One chunk is in place at most. -/
theorem InPlace.unique {other : Int} (h : session.InPlace narFile place chunk)
    (hother : session.InPlace narFile place other) : chunk = other := by
  obtain ⟨row, hrow, rfl⟩ := h
  obtain ⟨row', hrow', rfl⟩ := hother
  rw [Answer.chunk.inj (hrow.unique hrow')]

/-- The chunk in place is the one of the link. -/
theorem Reachable.inPlace_iff_mem (h : session.Reachable) :
    session.InPlace narFile place chunk ↔
      ⟨narFile, chunk, place⟩ ∈ session.catalog.chunkLinks := by
  have hformed := h.wellFormed.catalog
  constructor
  · rintro ⟨row, hrow, rfl⟩
    exact ((answers_chunkAt hformed).1 hrow).1
  · intro hlink
    obtain ⟨row, hrow, rfl⟩ := exists_chunk hformed hlink
    exact ⟨row, (answers_chunkAt hformed).2 ⟨hlink, hrow⟩, rfl⟩

/-- The chunk in place is the one that is linked there. -/
theorem Reachable.inPlace_iff (h : session.Reachable) :
    session.InPlace narFile place chunk ↔
      (session.catalog.linkAt? narFile place).map ChunkLink.chunk = some chunk := by
  rw [h.inPlace_iff_mem, Option.map_eq_some_iff]
  constructor
  · intro hlink
    exact ⟨_, h.wellFormed.catalog.linkAt?_eq_some.2 ⟨hlink, rfl, rfl⟩, rfl⟩
  · rintro ⟨⟨owner, held, index⟩, hplace, rfl⟩
    obtain ⟨hmem, rfl, rfl⟩ := h.wellFormed.catalog.linkAt?_eq_some.1 hplace
    exact hmem

/-- Nothing is in place where nothing is linked. -/
theorem Reachable.not_inPlace (h : session.Reachable)
    (hfree : session.catalog.linkAt? narFile place = none) (chunk : Int) :
    ¬ session.InPlace narFile place chunk := by
  rw [h.inPlace_iff, hfree]
  exact nofun

/-! ## what a call leaves in place -/

/-- The places of a NAR file hold what they held before; those that held nothing hold what was first
asked for, where each of the things that were asked for is a place and a chunk. -/
def KeepsFirst (session later : Session) (narFile : Int) (asked : List (Int × Int)) : Prop :=
  ∀ place chunk, later.InPlace narFile place chunk ↔
    session.InPlace narFile place chunk ∨
      (∀ held, ¬ session.InPlace narFile place held) ∧ asked.lookup place = some chunk

section kept

variable {asked : List (Int × Int)} (h : session.KeepsFirst later narFile asked)
include h

/-- Where something was asked for, something is in place. -/
theorem KeepsFirst.occupied {ask : Int × Int} (hask : ask ∈ asked) :
    ∃ chunk, later.InPlace narFile ask.1 chunk := by
  by_cases hheld : ∃ held, session.InPlace narFile ask.1 held
  · obtain ⟨held, hheld⟩ := hheld
    exact ⟨held, (h ask.1 held).2 (.inl hheld)⟩
  · cases hlookup : asked.lookup ask.1 with
    | none =>
      have hnone := List.lookup_eq_none_iff.1 hlookup ask hask
      simp at hnone
    | some first => exact ⟨first, (h ask.1 first).2 (.inr ⟨not_exists.1 hheld, hlookup⟩)⟩

/-- What was asked for is in place just when no other chunk was there, and no two chunks were asked
for at one place. -/
theorem KeepsFirst.granted_iff :
    (∀ ask ∈ asked, later.InPlace narFile ask.1 ask.2) ↔
      ∀ ask ∈ asked, (∀ held, session.InPlace narFile ask.1 held → held = ask.2) ∧
        ∀ other ∈ asked, other.1 = ask.1 → other.2 = ask.2 := by
  constructor
  · intro hgranted ask hask
    refine ⟨fun held hheld => ?_, fun other hother hplace => ?_⟩
    · exact ((h ask.1 held).2 (.inl hheld)).unique (hgranted ask hask)
    · have hothers := hgranted other hother
      rw [hplace] at hothers
      exact hothers.unique (hgranted ask hask)
  · intro hclear ask hask
    obtain ⟨hheld, hothers⟩ := hclear ask hask
    obtain ⟨first, hfirst⟩ := h.occupied hask
    have hsame : first = ask.2 := by
      rcases (h ask.1 first).1 hfirst with hbefore | ⟨-, hlookup⟩
      · exact hheld first hbefore
      · obtain ⟨front, back, rfl, -⟩ := List.lookup_eq_some_iff.1 hlookup
        exact hothers (ask.1, first) (by simp) rfl
    rwa [hsame] at hfirst

end kept

/-- Links leave at each place what was there, or else what came first. -/
theorem Reachable.keepsFirst (h : session.Reachable) {after : Catalog}
    (hlater : Reachable { session with catalog := after }) {chunks indices : List Int}
    (hadds : addEach linkChunk (ChunkLink.asked narFile chunks indices) session.catalog
      = .ok after) :
    session.KeepsFirst { session with catalog := after } narFile (indices.zip chunks) := by
  intro place chunk
  have hbefore : session.catalog.chunkLinks.find? (ChunkLink.isAt narFile place)
      = session.catalog.linkAt? narFile place := rfl
  have hafter := Catalog.linkAt?_addEach hadds narFile place
  rw [List.find?_append, hbefore] at hafter
  rw [hlater.inPlace_iff, hafter, h.inPlace_iff]
  cases hplace : session.catalog.linkAt? narFile place with
  | some link => simp [h.inPlace_iff, hplace]
  | none => simp [h.inPlace_iff, hplace, ChunkLink.find?_asked]

/-- A link that succeeds leaves the chunk that came first at its place. -/
theorem Reachable.keepsFirst_of_link (h : session.Reachable) {index : Int} {now : Time.Timestamp}
    (hperform : session.perform now (.write (.linkFileToChunk narFile chunk index))
      = (.ok .done, later)) : session.KeepsFirst later narFile [(index, chunk)] := by
  have hlater := h.of_perform hperform
  have hcall : session.perform now (ChunkLink.call ⟨narFile, chunk, index⟩) = (.ok .done, later) :=
    hperform
  obtain ⟨after, hlink⟩ := (perform_call_eq_ok now).1 (congrArg Prod.fst hcall)
  rw [perform_call_of_ok hlink] at hcall
  cases hcall
  have hadds : session.linkEach (ChunkLink.asked narFile [chunk] [index]) = .ok after :=
    Catalog.addEach_cons_of_ok hlink []
  exact h.keepsFirst hlater (addEach_of_guarded hadds)

/-- So does a list of links. -/
theorem Reachable.keepsFirst_of_links (h : session.Reachable) {chunks indices : List Int}
    (hlength : chunks.length = indices.length) {now : Time.Timestamp}
    (hperform : session.perform now (.write (.linkFileToChunks narFile chunks indices))
      = (.ok .done, later)) : session.KeepsFirst later narFile (indices.zip chunks) := by
  have hlater := h.of_perform hperform
  obtain ⟨after, hlinks⟩ := (perform_links_eq_ok hlength now).1 (congrArg Prod.fst hperform)
  rw [perform_links_of_ok hlength hlinks] at hperform
  cases hperform
  exact h.keepsFirst hlater (addEach_of_guarded hlinks)

/-- What it means that a call that brings chunks to places of a NAR file succeeds.  The places hold
what they held before, or else the chunk that was first asked for there, so that none of them is
empty.  A chunk that was asked for is in place just when no other one was there before, and no other
one was asked for at its place; otherwise it has been passed over in silence. -/
theorem Reachable.link_keeps_first (h : session.Reachable) (narFile : Int)
    (now : Time.Timestamp) :
    (∀ chunk index later,
      session.perform now (.write (.linkFileToChunk narFile chunk index)) = (.ok .done, later) →
        session.KeepsFirst later narFile [(index, chunk)] ∧
        (∃ held, later.InPlace narFile index held) ∧
        (later.InPlace narFile index chunk ↔
          ∀ held, session.InPlace narFile index held → held = chunk)) ∧
    ∀ chunks indices later,
      session.perform now (.write (.linkFileToChunks narFile chunks indices))
          = (.ok .done, later) →
        let asked := indices.zip chunks
        chunks.length = indices.length ∧
        session.KeepsFirst later narFile asked ∧
        (∀ ask ∈ asked, ∃ held, later.InPlace narFile ask.1 held) ∧
        ((∀ ask ∈ asked, later.InPlace narFile ask.1 ask.2) ↔
          ∀ ask ∈ asked, (∀ held, session.InPlace narFile ask.1 held → held = ask.2) ∧
            ∀ other ∈ asked, other.1 = ask.1 → other.2 = ask.2) := by
  constructor
  · intro chunk index later hperform
    have hkeeps := h.keepsFirst_of_link hperform
    have hoccupied := hkeeps.occupied (List.mem_singleton_self (index, chunk))
    have hgranted := hkeeps.granted_iff
    exact ⟨hkeeps, hoccupied, by simpa using hgranted⟩
  · intro chunks indices later hperform asked
    by_cases hlength : chunks.length = indices.length
    · have hkeeps := h.keepsFirst_of_links hlength hperform
      exact ⟨hlength, hkeeps, fun ask hask => hkeeps.occupied hask, hkeeps.granted_iff⟩
    · rw [perform_links_of_mismatch hlength] at hperform
      cases hperform

/-- Two chunks asked for at one place, one of which has another place already. -/
theorem link_keeps_first_twice :
    let session := (fresh .sqlite).after
      [.call .epoch (.write (.createNarFile ⟨⟨"a", "xz", ""⟩, 7, 0⟩)),
        .call .epoch (.write (.createChunk "c" 7)), .call .epoch (.write (.createChunk "d" 7)),
        .call .epoch (.write (.linkFileToChunk 1 1 0))]
    let list := session.perform .epoch (.write (.linkFileToChunks 1 [2, 1, 2] [0, 1, 1]))
    session.Reachable ∧ list.1 = .ok .done ∧
      list.2.InPlace 1 0 1 ∧ list.2.InPlace 1 1 1 ∧
      ¬ ∀ ask ∈ [(0, 2), (1, 1), (1, 2)], list.2.InPlace 1 ask.1 ask.2 := by
  intro session list
  have h : session.Reachable := (Reachable.fresh .sqlite).after _
  have hok : list.1 = .ok .done := by decide +kernel
  have hheld : session.InPlace 1 0 1 := h.inPlace_iff.2 (by decide +kernel)
  have hfree : ∀ held, ¬ session.InPlace 1 1 held := h.not_inPlace (by decide +kernel)
  obtain ⟨-, hkeeps, -, hgranted⟩ :=
    (h.link_keeps_first 1 .epoch).2 [2, 1, 2] [0, 1, 1] list.2 (Prod.ext hok rfl)
  refine ⟨h, hok, (hkeeps 0 1).2 (.inl hheld), (hkeeps 1 1).2 (.inr ⟨hfree, rfl⟩), fun hall => ?_⟩
  have hother := (hgranted.1 hall (0, 2) (by simp)).1 1 hheld
  contradiction

/-- A link to a place where another chunk is succeeds, and so does a list that asks for two chunks
at one place; both times a chunk that was asked for is not in place. -/
theorem linkFileToChunk_passes_over :
    let session := (fresh .sqlite).after
      [.call .epoch (.write (.createNarFile ⟨⟨"a", "xz", ""⟩, 7, 0⟩)),
        .call .epoch (.write (.createChunk "c" 7)), .call .epoch (.write (.createChunk "d" 7)),
        .call .epoch (.write (.linkFileToChunk 1 1 0))]
    let link := session.perform .epoch (.write (.linkFileToChunk 1 2 0))
    let list := session.perform .epoch (.write (.linkFileToChunks 1 [1, 2] [1, 1]))
    session.Reachable ∧ link.1 = .ok .done ∧ ¬ link.2.InPlace 1 0 2 ∧
      list.1 = .ok .done ∧ ¬ list.2.InPlace 1 1 2 := by
  intro session link list
  have h : session.Reachable := (Reachable.fresh .sqlite).after _
  have hlink : link.2.Reachable := h.handle (.call .epoch (.write (.linkFileToChunk 1 2 0)))
  have hlist : list.2.Reachable :=
    h.handle (.call .epoch (.write (.linkFileToChunks 1 [1, 2] [1, 1])))
  rw [hlink.inPlace_iff, hlist.inPlace_iff]
  exact ⟨h, by decide +kernel, by decide +kernel, by decide +kernel, by decide +kernel⟩

end NarIndex.Store.Session
