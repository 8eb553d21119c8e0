import NarIndex.Proofs.Store.Access
import NarIndex.Proofs.Text.Order

/-!
# NarIndex.Proofs.Store.Migration

What is migrated and what is not.  Eight calls tell of it, each by a statement of its own, and all
of them describe one partition of the NarInfos (`Session.Reachable.migration_partitions`): those
with a URL, even an empty one, and the placeholders.
-/

namespace NarIndex.Store.Session

open Catalog (Value kept InRange)

variable {session : Session}

/-! ## what agreement means -/

/-- The NarInfo of a hash, with a property that it has. -/
def HasAt (session : Session) (hash : String) (P : NarInfo Int → Prop) : Prop :=
  ∃ row, session.Answers (.narInfoByHash hash) (.narInfo row) ∧ P row

/-- The calls that tell what is migrated agree: on all hashes, on those of the NarInfos that are
migrated, and on those of the placeholders. -/
structure Partitions (session : Session) (all migrated unmigrated : List String) : Prop where
  allListed : session.Answers .hashes (.texts all)
  migratedListed : session.Answers .migratedHashes (.texts migrated)
  unmigratedListed : session.Answers .unmigratedHashes (.texts unmigrated)
  migratedAscend : migrated.Pairwise fun a b => Text.bytes a < Text.bytes b
  unmigratedAscend : unmigrated.Pairwise fun a b => Text.bytes a < Text.bytes b
  disjoint : migrated.Disjoint unmigrated
  merged : migrated.merge unmigrated Text.le = all
  counted : session.Answers .countNarInfos (.count all.length)
  /-- A hash is migrated if its NarInfo has a URL, whatever this is. -/
  migratedIff : ∀ hash, hash ∈ migrated ↔ session.HasAt hash (·.details.url ≠ none)
  unmigratedIff : ∀ hash, hash ∈ unmigrated ↔ session.HasAt hash (·.details.url = none)
  flagged : ∀ hash, session.Answers (.isMigrated hash) (.flag (migrated.contains hash))
  /-- The hashes of the NarInfos at a URL stand among those that are migrated, in their order. -/
  atUrl : ∀ url, ∃ hashes, session.Answers (.hashesByUrl url) (.texts hashes) ∧
    hashes.Sublist migrated ∧ ∀ hash, hash ∈ hashes ↔ session.HasAt hash (·.details.url = some url)
  /-- The NarInfos without a NAR file that are listed are those among the orphans that are
  migrated. -/
  withoutFile : ∃ orphans : List (NarInfo Int),
    session.Answers .orphanedNarInfos (.narInfos orphans) ∧
    session.Answers .narInfosWithoutFile (.narInfos (orphans.filter (·.isMigrated))) ∧
    (orphans.map (·.id)).Pairwise (· < ·) ∧
    ∀ row, row ∈ orphans ↔ session.HasNarInfo row ∧
      ∀ narFile, ⟨row.id, narFile⟩ ∉ session.catalog.fileLinks

/-! ## hashes -/

section hashes

variable (h : session.catalog.WellFormed) {hash : String}
include h

/-- A hash is listed under a condition if its NarInfo meets it. -/
theorem mem_hashesWhere_iff_hasAt {p : NarInfo Value → Bool} {P : NarInfo Int → Prop}
    (hp : ∀ row, p (kept row) ↔ P row) :
    hash ∈ session.catalog.hashesWhere p ↔ session.HasAt hash P := by
  have hbyHash (row : NarInfo Int) : session.Answers (.narInfoByHash hash) (.narInfo row) ↔
      session.HasNarInfo row ∧ row.hash = hash := by
    rw [hasNarInfo_iff h]
    exact Access.narInfos.answers_byKey h
  simp only [mem_hashesWhere_iff h, HasAt, hbyHash, hp, and_assoc, and_comm]

/-- The hashes of NarInfos with a URL are those that are migrated. -/
theorem mem_migratedHashes_iff :
    hash ∈ session.catalog.migratedHashes ↔ session.HasAt hash (·.details.url ≠ none) :=
  mem_hashesWhere_iff_hasAt h fun _ => Option.isSome_iff_ne_none

/-- The hashes of NarInfos without one are those that are not. -/
theorem mem_unmigratedHashes_iff :
    hash ∈ session.catalog.unmigratedHashes ↔ session.HasAt hash (·.details.url = none) := by
  refine mem_hashesWhere_iff_hasAt h fun row => ?_
  have hplaceholder : (!(kept row).isMigrated) = row.details.url.isNone := Option.not_isSome _
  rw [hplaceholder, Option.isNone_iff_eq_none]

/-- The hashes at a URL are those of the NarInfos with it. -/
theorem mem_hashesByUrl_iff {url : String} :
    hash ∈ session.catalog.hashesByUrl url ↔ session.HasAt hash (·.details.url = some url) :=
  mem_hashesWhere_iff_hasAt h fun _ => beq_iff_eq

/-- No hash is in both lists. -/
theorem disjoint_migratedHashes :
    session.catalog.migratedHashes.Disjoint session.catalog.unmigratedHashes := by
  intro hash hmigrated hunmigrated
  obtain ⟨row, hrow, hsome⟩ := (mem_migratedHashes_iff h).1 hmigrated
  obtain ⟨other, hother, hnone⟩ := (mem_unmigratedHashes_iff h).1 hunmigrated
  rw [Answer.narInfo.inj (hrow.unique hother)] at hsome
  exact hsome hnone

omit h in
/-- Every hash is in one of them. -/
theorem mem_hashes_iff :
    hash ∈ session.catalog.hashes ↔
      hash ∈ session.catalog.migratedHashes ∨ hash ∈ session.catalog.unmigratedHashes := by
  simp only [Catalog.hashes, Catalog.migratedHashes, Catalog.unmigratedHashes,
    Catalog.mem_hashesWhere]
  grind

/-- Merged together, the hashes of both kinds are all hashes. -/
theorem merge_migratedHashes :
    session.catalog.migratedHashes.merge session.catalog.unmigratedHashes Text.le
      = session.catalog.hashes :=
  Text.merge_eq_of_ascends h.narInfos.hashesWhere_ascends h.narInfos.hashesWhere_ascends
    h.narInfos.hashesWhere_ascends (disjoint_migratedHashes h) fun _ => mem_hashes_iff

omit h in
/-- A hash is migrated just if it is listed so. -/
theorem isMigrated_eq_contains :
    session.catalog.isMigrated hash = session.catalog.migratedHashes.contains hash := by
  rw [Bool.eq_iff_iff, List.contains_iff_mem, Catalog.migratedHashes, Catalog.mem_hashesWhere,
    Catalog.isMigrated, List.any_eq_true]
  simp [and_comm]

/-- The hashes at a URL stand among those that are migrated. -/
theorem hashesByUrl_sublist (url : String) :
    (session.catalog.hashesByUrl url).Sublist session.catalog.migratedHashes := by
  refine Text.sublist_of_ascends h.narInfos.hashesWhere_ascends h.narInfos.hashesWhere_ascends ?_
  intro hash hmem
  obtain ⟨row, hrow, hurl⟩ := (mem_hashesByUrl_iff h).1 hmem
  exact (mem_migratedHashes_iff h).2 ⟨row, hrow, by simp [hurl]⟩

end hashes

/-! ## NarInfos without a NAR file -/

section orphans

variable (h : session.catalog.WellFormed)
include h

omit h in
/-- A NarInfo lacks a NAR file if no link leads from it. -/
theorem lacksFile_kept_iff {row : NarInfo Int} :
    session.catalog.lacksFile (kept row) ↔
      ∀ narFile, ⟨row.id, narFile⟩ ∉ session.catalog.fileLinks := by
  have hid : (kept row).id = row.id := rfl
  simp only [Catalog.lacksFile, hid, Bool.not_eq_true', List.any_eq_false, beq_iff_eq]
  constructor
  · intro hnone narFile hlink
    exact hnone ⟨row.id, narFile⟩ hlink rfl
  · rintro hnone ⟨narInfo, narFile⟩ hlink rfl
    exact hnone narFile hlink

/-- The NarInfos that no link leads from, and those of them that are migrated, are listed by their
ids. -/
theorem exists_orphans :
    ∃ orphans : List (NarInfo Int),
      session.Answers .orphanedNarInfos (.narInfos orphans) ∧
      session.Answers .narInfosWithoutFile (.narInfos (orphans.filter (·.isMigrated))) ∧
      (orphans.map (·.id)).Pairwise (· < ·) ∧
      ∀ row, row ∈ orphans ↔ session.HasNarInfo row ∧
        ∀ narFile, ⟨row.id, narFile⟩ ∉ session.catalog.fileLinks := by
  have hlacking := h.narInfos.filter session.catalog.lacksFile
  obtain ⟨orphans, hrows, -, hheld⟩ := exists_held hlacking
  have hrange : ∀ row ∈ orphans, InRange row := fun row hrow => ((hheld row).1 hrow).2
  have hmigrated : session.catalog.narInfos.filter
      (fun row => row.isMigrated && session.catalog.lacksFile row)
        = (orphans.filter (·.isMigrated)).map kept := by
    rw [← List.filter_filter, hrows, List.filter_map]
    rfl
  refine ⟨orphans, ?_, ?_, ?_, fun row => ?_⟩
  · have hlisted : listed session.catalog.orphanedNarInfos = .ok orphans := by
      rw [Catalog.orphanedNarInfos, hlacking.byId_eq, hrows, listed_kept hrange]
    exact answers_iff.2 (congrArg (Except.map Answer.narInfos) hlisted)
  · have hlisted : listed session.catalog.narInfosWithoutFile
        = .ok (orphans.filter (·.isMigrated)) := by
      rw [Catalog.narInfosWithoutFile, (h.narInfos.filter _).byId_eq, hmigrated,
        listed_kept fun row hrow => hrange row (List.mem_of_mem_filter hrow)]
    exact answers_iff.2 (congrArg (Except.map Answer.narInfos) hlisted)
  · have hascend := hlacking.ids_ascend
    rwa [hrows, List.map_map] at hascend
  · rw [hheld, held_filter, hasNarInfo_iff h, lacksFile_kept_iff]

end orphans

/-- The calls that tell what is migrated agree.  The hashes of the migrated NarInfos and those of
the placeholders are listed each once, in the order of their bytes; none is in both lists, and
merged together they are all hashes, as many as there are NarInfos.  A hash is migrated if its
NarInfo has a URL.  The hashes at a URL stand among the migrated ones, and the NarInfos without a
NAR file that are listed are the migrated ones among those that no link leads from. -/
theorem Reachable.migration_partitions (h : session.Reachable) :
    ∃ all migrated unmigrated, session.Partitions all migrated unmigrated := by
  have hformed := h.wellFormed.catalog
  have hlength : session.catalog.narInfos.length = session.catalog.hashes.length := by
    simp [Catalog.hashes, Catalog.hashesWhere, Text.sorted]
  exact ⟨session.catalog.hashes, session.catalog.migratedHashes, session.catalog.unmigratedHashes,
    { allListed := answers_iff.2 rfl
      migratedListed := answers_iff.2 rfl
      unmigratedListed := answers_iff.2 rfl
      migratedAscend := hformed.narInfos.hashesWhere_ascends
      unmigratedAscend := hformed.narInfos.hashesWhere_ascends
      disjoint := disjoint_migratedHashes hformed
      merged := merge_migratedHashes hformed
      counted := answers_iff.2 (congrArg (Except.ok <| Answer.count ·) hlength)
      migratedIff := fun _ => mem_migratedHashes_iff hformed
      unmigratedIff := fun _ => mem_unmigratedHashes_iff hformed
      flagged := fun _ =>
        answers_iff.2 (congrArg (Except.ok <| Answer.flag ·) isMigrated_eq_contains)
      atUrl := fun url => ⟨session.catalog.hashesByUrl url, answers_iff.2 rfl,
        hashesByUrl_sublist hformed url, fun _ => mem_hashesByUrl_iff hformed⟩
      withoutFile := exists_orphans hformed }⟩

/-- A NarInfo with an empty URL, one whose URL an update has taken away, and a placeholder. -/
theorem migration_partitions_withdrawn :
    let session := (fresh .postgres).after
      [.call .epoch (.write (.createNarInfo { hash := "b", url := some "" })),
        .call .epoch (.write (.createNarInfo { hash := "a", url := some "u" })),
        .call .epoch (.write (.updateNarInfo (placeholder "a"))),
        .call .epoch (.write (.createNarInfo (placeholder "c")))]
    session.Reachable ∧ ∃ all migrated unmigrated, session.Partitions all migrated unmigrated ∧
      "b" ∈ migrated ∧ "a" ∈ unmigrated ∧ all.length = 3 := by
  intro session
  have h : session.Reachable := (Reachable.fresh .postgres).after _
  have hset : session.HasAt "b" (·.details.url ≠ none) :=
    ⟨⟨1, "b", { url := some "" }, 0, none, 0⟩, answers_iff.2 (by decide +kernel), nofun⟩
  have hwithdrawn : session.HasAt "a" (·.details.url = none) :=
    ⟨⟨2, "a", {}, 0, some 0, 0⟩, answers_iff.2 (by decide +kernel), rfl⟩
  obtain ⟨all, migrated, unmigrated, hparts⟩ := h.migration_partitions
  have hcount : session.Answers .countNarInfos (.count 3) := answers_iff.2 (by decide +kernel)
  exact ⟨h, all, migrated, unmigrated, hparts, (hparts.migratedIff "b").2 hset,
    (hparts.unmigratedIff "a").2 hwithdrawn, Answer.count.inj (hparts.counted.unique hcount)⟩

end NarIndex.Store.Session
