import NarIndex.Catalog.Link
import NarIndex.Proofs.Result

/-!
# NarIndex.Proofs.Catalog.Relation

Relations that come in one after the other.  Several of them come in up to the first that cannot
(`addEach`), and a statement that adds several does just that (`addAll_of_ok`, `addAll_of_error`).
A place of a NAR file keeps the first chunk that came to it: after any number of links, what is at
the place is the first link to it, among those that were there and then those that came in
(`linkAt?_addEach`).
-/

namespace NarIndex

/-- Whether a link leads to a place of a NAR file. -/
def ChunkLink.isAt (narFile index : Int) (link : ChunkLink) : Bool :=
  link.narFile == narFile && link.index == index

namespace Catalog

/-! ## one after the other -/

/-- Adds relations one after the other, up to the first that cannot be added. -/
def addEach {α : Type} (add : α → Catalog → Except DriverError Catalog) (links : List α)
    (catalog : Catalog) : Except DriverError Catalog :=
  links.foldlM (fun catalog link => add link catalog) catalog

section addEach

variable {α : Type} {add : α → Catalog → Except DriverError Catalog} {link : α} {links : List α}
  {catalog between after : Catalog} {error : DriverError}

@[simp] theorem addEach_nil (add : α → Catalog → Except DriverError Catalog) (catalog : Catalog) :
    addEach add [] catalog = .ok catalog :=
  rfl

theorem addEach_cons (add : α → Catalog → Except DriverError Catalog) (link : α) (links : List α)
    (catalog : Catalog) :
    addEach add (link :: links) catalog = add link catalog >>= addEach add links :=
  List.foldlM_cons

theorem addEach_cons_of_ok (h : add link catalog = .ok between) (links : List α) :
    addEach add (link :: links) catalog = addEach add links between := by
  rw [addEach_cons, h]
  rfl

theorem addEach_cons_of_error (h : add link catalog = .error error) (links : List α) :
    addEach add (link :: links) catalog = .error error := by
  rw [addEach_cons, h]
  rfl

/-- A list is added in two parts as it is in one. -/
theorem addEach_append (add : α → Catalog → Except DriverError Catalog) (links more : List α)
    (catalog : Catalog) :
    addEach add (links ++ more) catalog = addEach add links catalog >>= addEach add more :=
  List.foldlM_append

theorem addEach_append_of_ok (h : addEach add links catalog = .ok between) (more : List α) :
    addEach add (links ++ more) catalog = addEach add more between := by
  rw [addEach_append, h]
  rfl

/-- Relations that can be added one after the other can be added as far as one likes. -/
theorem addEach_of_append {more : List α} (h : addEach add (links ++ more) catalog = .ok after) :
    ∃ between, addEach add links catalog = .ok between ∧ addEach add more between = .ok after := by
  rw [addEach_append] at h
  exact bind_eq_ok h

/-- If relations cannot all be added, then there is a first one that cannot. -/
theorem addEach_eq_error (h : addEach add links catalog = .error error) :
    ∃ before link rest between, links = before ++ link :: rest ∧
      addEach add before catalog = .ok between ∧ add link between = .error error := by
  induction links generalizing catalog with
  | nil => contradiction
  | cons link links ih =>
    cases hlink : add link catalog with
    | error first =>
      rw [addEach_cons_of_error hlink] at h
      cases h
      exact ⟨[], link, links, catalog, rfl, rfl, hlink⟩
    | ok next =>
      rw [addEach_cons_of_ok hlink] at h
      obtain ⟨before, failing, rest, between, rfl, hbefore, hfails⟩ := ih h
      refine ⟨link :: before, failing, rest, between, rfl, ?_, hfails⟩
      rw [addEach_cons_of_ok hlink, hbefore]

/-- A statement that adds several relations adds each. -/
theorem addAll_of_ok (h : addEach add links catalog = .ok after) :
    addAll add links catalog = .ok ((), after) := by
  change (addEach add links catalog >>= fun after => Except.ok ((), after)) = _
  rw [h]
  rfl

/-- A statement that adds several relations fails as the first of them does that cannot be added. -/
theorem addAll_of_error (h : addEach add links catalog = .error error) :
    addAll add links catalog = .error error := by
  change (addEach add links catalog >>= fun after => Except.ok ((), after)) = _
  rw [h]
  rfl

end addEach

/-! ## links to chunks -/

section linkChunk

variable {link : ChunkLink} {links : List ChunkLink} {catalog after : Catalog}

/-- A place that is taken keeps what it has. -/
theorem linkChunk_of_taken (h : (catalog.linkAt? link.narFile link.index).isSome) :
    linkChunk link catalog = .ok catalog := by
  rw [linkChunk, relate, if_pos h]
  rfl

/-- A chunk comes to a place that is free, if the chunk and the NAR file are there. -/
theorem linkChunk_of_free (free : catalog.linkAt? link.narFile link.index = none)
    (narFile : catalog.hasNarFile link.narFile) (chunk : catalog.hasChunk link.chunk) :
    linkChunk link catalog
      = .ok { catalog with chunkLinks := catalog.chunkLinks ++ [link] } := by
  rw [linkChunk, relate, free, narFile, chunk]
  rfl

/-- A link from or to what is not there is refused. -/
theorem linkChunk_of_missing (free : catalog.linkAt? link.narFile link.index = none)
    (missing : (catalog.hasNarFile link.narFile && catalog.hasChunk link.chunk) = false) :
    linkChunk link catalog = .error .foreignKeyViolated := by
  rw [linkChunk, relate, free, missing]
  rfl

/-- A chunk can be linked to a place if the place is taken, or if the chunk and the NAR file are
there. -/
theorem linkChunk_succeeds_iff :
    (∃ after, linkChunk link catalog = .ok after) ↔
      (catalog.linkAt? link.narFile link.index).isSome ∨
        catalog.hasNarFile link.narFile ∧ catalog.hasChunk link.chunk := by
  cases htaken : catalog.linkAt? link.narFile link.index with
  | some held =>
    have hkeeps : linkChunk link catalog = .ok catalog := linkChunk_of_taken (by rw [htaken]; rfl)
    exact ⟨fun _ => .inl rfl, fun _ => ⟨catalog, hkeeps⟩⟩
  | none =>
    cases hends : catalog.hasNarFile link.narFile && catalog.hasChunk link.chunk with
    | true =>
      obtain ⟨hnarFile, hchunk⟩ := Bool.and_eq_true_iff.1 hends
      have hcomes := linkChunk_of_free htaken hnarFile hchunk
      exact ⟨fun _ => .inr ⟨hnarFile, hchunk⟩, fun _ => ⟨_, hcomes⟩⟩
    | false =>
      have hfails := linkChunk_of_missing htaken hends
      constructor
      · rintro ⟨after, hok⟩
        rw [hfails] at hok
        contradiction
      · rintro (htaken | ⟨hnarFile, hchunk⟩)
        · contradiction
        · rw [hnarFile, hchunk] at hends
          contradiction

/-- After a link, a place has what it had before; or, if it was free, what the link brought to
it. -/
theorem linkAt?_linkChunk (h : linkChunk link catalog = .ok after) (narFile index : Int) :
    after.linkAt? narFile index
      = (catalog.chunkLinks ++ [link]).find? (ChunkLink.isAt narFile index) := by
  have hbefore : catalog.chunkLinks.find? (ChunkLink.isAt narFile index)
      = catalog.linkAt? narFile index := rfl
  rw [List.find?_append, hbefore, List.find?_singleton]
  cases htaken : catalog.linkAt? link.narFile link.index with
  | some held =>
    rw [linkChunk_of_taken (by rw [htaken]; rfl)] at h
    cases h
    -- the link has come to nothing, and if it leads to this place, then this is taken
    by_cases hat : link.isAt narFile index
    · obtain ⟨hnarFile, hindex⟩ := Bool.and_eq_true_iff.1 hat
      rw [eq_of_beq hnarFile, eq_of_beq hindex] at htaken
      rw [htaken, Option.some_or]
    · rw [if_neg hat, Option.or_none]
  | none =>
    cases hends : catalog.hasNarFile link.narFile && catalog.hasChunk link.chunk with
    | true =>
      obtain ⟨hnarFile, hchunk⟩ := Bool.and_eq_true_iff.1 hends
      rw [linkChunk_of_free htaken hnarFile hchunk] at h
      cases h
      change (catalog.chunkLinks ++ [link]).find? (ChunkLink.isAt narFile index) = _
      rw [List.find?_append, hbefore, List.find?_singleton]
    | false =>
      rw [linkChunk_of_missing htaken hends] at h
      contradiction

/-- After any number of links, a place has the first link to it, among those that were there and
then those that came in. -/
theorem linkAt?_addEach (h : addEach linkChunk links catalog = .ok after) (narFile index : Int) :
    after.linkAt? narFile index
      = (catalog.chunkLinks ++ links).find? (ChunkLink.isAt narFile index) := by
  induction links generalizing catalog with
  | nil =>
    cases h
    rw [List.append_nil]
    rfl
  | cons link links ih =>
    rw [addEach_cons] at h
    obtain ⟨between, hlink, hlinks⟩ := bind_eq_ok h
    have hbetween : between.chunkLinks.find? (ChunkLink.isAt narFile index)
        = (catalog.chunkLinks ++ [link]).find? (ChunkLink.isAt narFile index) :=
      linkAt?_linkChunk hlink narFile index
    rw [ih hlinks, List.find?_append, hbetween, ← List.find?_append, List.append_assoc,
      List.singleton_append]

/-- Links come to nothing just when all their places were taken. -/
theorem addEach_linkChunk_eq_self (h : addEach linkChunk links catalog = .ok after) :
    after = catalog ↔ ∀ link ∈ links, (catalog.linkAt? link.narFile link.index).isSome := by
  constructor
  · rintro rfl link hlink
    have hplace := linkAt?_addEach h link.narFile link.index
    rw [hplace, List.find?_isSome]
    exact ⟨link, List.mem_append_right _ hlink, by simp [ChunkLink.isAt]⟩
  · intro taken
    induction links with
    | nil =>
      cases h
      rfl
    | cons link links ih =>
      obtain ⟨hlink, hlinks⟩ := List.forall_mem_cons.1 taken
      rw [addEach_cons_of_ok (linkChunk_of_taken hlink)] at h
      exact ih h hlinks

end linkChunk

end Catalog

end NarIndex
