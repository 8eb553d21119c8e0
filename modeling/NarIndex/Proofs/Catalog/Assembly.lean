import NarIndex.Proofs.Catalog.Lookup
import NarIndex.Proofs.Catalog.Relation
import NarIndex.Proofs.Catalog.WellFormed

/-!
# NarIndex.Proofs.Catalog.Assembly

The places of a NAR file.  Each of them has one link, and they are listed in strictly ascending
order (`WellFormed.placesOf_ascends`), so that the list depends on which links there are and not on
the order in which they came (`WellFormed.placesOf_eq`).  Links to different places that are free
all come in (`addEach_linkChunk_of_free`).
-/

namespace NarIndex.Catalog

variable {catalog other : Catalog} {narFile index : Int} {link : ChunkLink}

/-! ## one place -/

/-- A place has the link that leads to it. -/
theorem WellFormed.linkAt?_eq_some (h : catalog.WellFormed) :
    catalog.linkAt? narFile index = some link ↔
      link ∈ catalog.chunkLinks ∧ link.narFile = narFile ∧ link.index = index := by
  rw [← Prod.mk.injEq]
  exact find?_column_eq_some h.chunkLinks.keys_nodup (k := (narFile, index))

theorem linkAt?_eq_none :
    catalog.linkAt? narFile index = none ↔
      ∀ link ∈ catalog.chunkLinks, (link.narFile, link.index) ≠ (narFile, index) := by
  simp [linkAt?]

/-! ## all places of a NAR file -/

/-- The places of a NAR file are its links. -/
theorem mem_placesOf :
    link ∈ catalog.placesOf narFile ↔ link ∈ catalog.chunkLinks ∧ link.narFile = narFile := by
  rw [placesOf, List.mem_mergeSort, List.mem_filter, beq_iff_eq]

/-- Each link of a NAR file is one place, whichever order they came in. -/
theorem placesOf_perm (catalog : Catalog) (narFile : Int) :
    (catalog.placesOf narFile).Perm (catalog.chunkLinks.filter (·.narFile == narFile)) :=
  List.mergeSort_perm _ _

/-- The places of a NAR file ascend strictly. -/
theorem WellFormed.placesOf_ascends (h : catalog.WellFormed) (narFile : Int) :
    (catalog.placesOf narFile).Pairwise fun a b => a.index < b.index := by
  have hle : (catalog.placesOf narFile).Pairwise fun a b => decide (a.index ≤ b.index) := by
    refine List.pairwise_mergeSort (fun a b c hab hbc => ?_) (fun a b => ?_) _
    · simp only [decide_eq_true_eq] at hab hbc ⊢
      omega
    · simp only [Bool.or_eq_true, decide_eq_true_eq]
      omega
  have hkeys : ((catalog.placesOf narFile).map fun link => (link.narFile, link.index)).Nodup := by
    refine ((placesOf_perm catalog narFile).map _).nodup_iff.2 ?_
    exact h.chunkLinks.keys_nodup.sublist (List.filter_sublist.map _)
  refine (hle.and (List.pairwise_map.1 hkeys)).imp_of_mem fun {a b} ha hb hpair => ?_
  have howner : a.narFile = b.narFile := (mem_placesOf.1 ha).2.trans (mem_placesOf.1 hb).2.symm
  have hindex : a.index ≠ b.index := fun heq => hpair.2 (Prod.ext howner heq)
  exact Std.lt_of_le_of_ne (of_decide_eq_true hpair.1) hindex

/-- The places of a NAR file are determined by which links there are. -/
theorem WellFormed.placesOf_eq (h : catalog.WellFormed) (hother : other.WellFormed)
    (same : ∀ link, link ∈ catalog.chunkLinks ↔ link ∈ other.chunkLinks) (narFile : Int) :
    catalog.placesOf narFile = other.placesOf narFile := by
  have hirrefl : Std.Irrefl fun a b : ChunkLink => a.index < b.index :=
    ⟨fun a => Int.lt_irrefl a.index⟩
  have hantisymm : Std.Antisymm fun a b : ChunkLink => a.index < b.index :=
    ⟨fun a b hab hba => absurd hba (Int.lt_asymm hab)⟩
  refine (h.placesOf_ascends narFile).eq_of_mem_iff (hother.placesOf_ascends narFile) fun link => ?_
  rw [mem_placesOf, mem_placesOf, same]

/-! ## links to free places -/

/-- Links to different places that are free come in behind the ones that are there, if they lead
from NAR files and to chunks that are there. -/
theorem addEach_linkChunk_of_free {links : List ChunkLink}
    (free : ∀ link ∈ links, catalog.linkAt? link.narFile link.index = none)
    (distinct : (links.map fun link => (link.narFile, link.index)).Nodup)
    (ends : ∀ link ∈ links, catalog.hasNarFile link.narFile ∧ catalog.hasChunk link.chunk) :
    addEach linkChunk links catalog
      = .ok { catalog with chunkLinks := catalog.chunkLinks ++ links } := by
  induction links generalizing catalog with
  | nil => simp
  | cons link links ih =>
    obtain ⟨hfree, hfrees⟩ := List.forall_mem_cons.1 free
    obtain ⟨⟨hnarFile, hchunk⟩, hends⟩ := List.forall_mem_cons.1 ends
    rw [List.map_cons, List.nodup_cons] at distinct
    obtain ⟨hnew, hdistinct⟩ := distinct
    rw [addEach_cons_of_ok (linkChunk_of_free hfree hnarFile hchunk)]
    -- the link that has come in leads to none of the places of the others
    let next : Catalog := { catalog with chunkLinks := catalog.chunkLinks ++ [link] }
    have hstill : ∀ later ∈ links, next.linkAt? later.narFile later.index = none := by
      intro later hlater
      have hbefore := linkAt?_eq_none.1 (hfrees later hlater)
      refine linkAt?_eq_none.2 (forall_append_singleton hbefore fun heq => ?_)
      exact hnew (heq ▸ List.mem_map_of_mem hlater)
    rw [ih hstill hdistinct hends]
    simp [next]

end NarIndex.Catalog
