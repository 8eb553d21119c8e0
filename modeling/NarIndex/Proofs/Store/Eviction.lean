import NarIndex.Proofs.Catalog.Eviction
import NarIndex.Proofs.Store.Sweep
import NarIndex.Proofs.Store.Transaction

/-!
# NarIndex.Proofs.Store.Eviction

Making room.  A call that selects the rows used longest ago answers with the longest prefix that its
budget affords, of all rows in the order of their use; it fails just when their sizes cannot be
added up (`Session.Reachable.leastUsedFiles_longestAffordable`,
`Session.Reachable.leastUsedNarInfos_longestAffordable`).  Once selected NarInfos have been deleted,
and after them the NAR files that are left without one, what is gone of the files that had a link is
within the budget as well (`Session.Reachable.eviction_frees_at_most`).
-/

namespace NarIndex.Store

open Catalog (Value Readable Keepable kept InRange InOrderOfUse LongestAffordable weight links
  maxInteger)

/-! ## selected rows -/

section selection

variable {ρ : Type → Type} [Readable ρ] [Keepable ρ]

/-- A budget beyond the range of a column is used as the largest one within it. -/
theorem coe_clamped (budget : UInt64) :
    (clamped budget : Int) = min (budget.toNat : Int) maxInteger := by
  rw [clamped, maxInteger]
  omega

/-- What a call answers that lists the rows that its budget affords. -/
theorem listed_affordable {rows ordered : List (ρ Int)} {size : ρ Int → Int}
    {selected : Except DriverError (List (ρ Value))} {answer : Except StoreError Answer}
    {list : List (ρ Int) → Answer} (budget : UInt64)
    (hanswer : answer = (selected.mapError StoreError.ofQuery >>= listed).map list)
    (hselected : selected
      = (Catalog.affordable ((ordered.map size).map .integer) (clamped budget) ordered).map
          (List.map kept))
    (hperm : ordered.Perm rows) (hrange : ∀ row ∈ rows, InRange row)
    (nonneg : ∀ row ∈ rows, 0 ≤ size row) :
    if maxInteger < (rows.map size).sum then answer = .error (.database "query" .sumOverflowed)
    else ∃ chosen, answer = .ok (list chosen) ∧
      LongestAffordable size budget.toNat ordered chosen := by
  have hnonneg : ∀ row ∈ ordered, 0 ≤ size row := fun row hrow => nonneg row (hperm.mem_iff.1 hrow)
  rw [← (hperm.map size).sum_eq]
  split
  · next hlarge =>
    rw [hanswer, hselected, Catalog.affordable_of_lt hnonneg hlarge]
    rfl
  · next hfits =>
    rw [Int.not_lt] at hfits
    obtain ⟨chosen, hchosen, hlongest⟩ :=
      Catalog.affordable_of_le hnonneg hfits (Int.natCast_nonneg (clamped budget))
    refine ⟨chosen, ?_, ?_⟩
    · have hlisted : listed (chosen.map kept) = .ok chosen :=
        listed_kept fun row hrow => hrange row (hperm.mem_iff.1 (hlongest.begins.subset hrow))
      rw [hanswer, hselected, hchosen]
      exact congrArg (Except.map list) hlisted
    · rw [coe_clamped] at hlongest
      exact hlongest.of_min hnonneg hfits

end selection

/-! ## the rows that may go first -/

/-- The NAR files that a budget affords, where the tables are well formed: the longest prefix of all
NAR files, in the order of their use. -/
theorem leastUsedFiles_selects {catalog : Catalog} (h : catalog.WellFormed) (budget : UInt64)
    {files : List (NarFile Int)} (hfiles : Catalog.readAll catalog.narFiles = .ok files) :
    ∃ ordered, InOrderOfUse (·.lastAccessedAt) (·.id) files ordered ∧
      let answer := (leastUsedFiles catalog budget).map Answer.narFiles
      if maxInteger < (files.map (·.fileSize)).sum then
        answer = .error (.database "query" .sumOverflowed)
      else
        ∃ chosen, answer = .ok (.narFiles chosen) ∧
          LongestAffordable (·.fileSize) budget.toNat ordered chosen := by
  obtain ⟨hrows, hrange, hids⟩ := h.narFiles.rows_of_readAll hfiles
  have horder : InOrderOfUse (·.lastAccessedAt) (·.id) files _ := Catalog.inOrderOfUse_byUse hids
  refine ⟨_, horder, ?_⟩
  exact listed_affordable budget rfl (Catalog.leastUsedFiles_eq hrows _) horder.perm hrange
    fun file hfile => (hrange file hfile).fileSize.1

/-- The NarInfos that a budget affords, where the tables are well formed: the longest prefix of all
NarInfos, in the order of their use. -/
theorem leastUsedNarInfos_selects {catalog : Catalog} (h : catalog.WellFormed) (budget : UInt64)
    {files : List (NarFile Int)} (hfiles : Catalog.readAll catalog.narFiles = .ok files)
    {infos : List (NarInfo Int)} (hinfos : Catalog.readAll catalog.narInfos = .ok infos) :
    ∃ ordered, InOrderOfUse (·.lastAccessedAt) (·.id) infos ordered ∧
      let answer := (leastUsedNarInfos catalog budget).map Answer.narInfos
      if maxInteger < (infos.map (weight catalog.fileLinks files)).sum then
        answer = .error (.database "query" .sumOverflowed)
      else
        ∃ chosen, answer = .ok (.narInfos chosen) ∧
          LongestAffordable (weight catalog.fileLinks files) budget.toNat ordered chosen := by
  obtain ⟨hfilesRows, hfilesRange, -⟩ := h.narFiles.rows_of_readAll hfiles
  obtain ⟨hinfosRows, hinfosRange, hids⟩ := h.narInfos.rows_of_readAll hinfos
  have horder : InOrderOfUse (·.lastAccessedAt) (·.id) infos _ := Catalog.inOrderOfUse_byUse hids
  refine ⟨_, horder, ?_⟩
  exact listed_affordable budget rfl
    (Catalog.leastUsedNarInfos_eq h hfilesRows hfilesRange hinfosRows hinfosRange _) horder.perm
    hinfosRange fun row hrow => Catalog.weight_nonneg hfilesRange (hinfosRange row hrow)

namespace Session

/-- The NAR files that a budget affords are the longest prefix of all NAR files, in the order of
their use, whose sizes stay within the budget together.  If the sizes of all NAR files cannot be
added up, the call fails instead.  It changes nothing. -/
theorem Reachable.leastUsedFiles_longestAffordable {session : Session} (h : session.Reachable)
    (now : Time.Timestamp) (budget : UInt64) :
    ∃ files ordered : List (NarFile Int),
      Catalog.readAll session.catalog.narFiles = .ok files ∧
      InOrderOfUse (·.lastAccessedAt) (·.id) files ordered ∧
      let reply := session.perform now (.read (.leastUsedFiles budget))
      reply.2 = session ∧
      if maxInteger < (files.map (·.fileSize)).sum then
        reply.1 = .error (.database "query" .sumOverflowed)
      else
        ∃ chosen, reply.1 = .ok (.narFiles chosen) ∧
          LongestAffordable (·.fileSize) budget.toNat ordered chosen := by
  have hcatalog := h.wellFormed.catalog
  obtain ⟨files, hread⟩ := Catalog.readAll_of_sound hcatalog.narFiles.sound
  obtain ⟨ordered, horder, hanswer⟩ := leastUsedFiles_selects hcatalog budget hread
  exact ⟨files, ordered, hread, horder, rfl, hanswer⟩

/-- A NAR file that would fit, but was used after one that does not. -/
theorem leastUsedFiles_longestAffordable_touched :
    let create (hash : String) (fileSize : UInt64) : Event :=
      .call .epoch (.write (.createNarFile ⟨{ hash }, fileSize, 0⟩))
    let session := (fresh .sqlite).after
      [create "a" 100, create "b" 200, create "c" 0, create "d" 300,
        .call ⟨1, by decide, by decide⟩ (.write (.touchNarFile { hash := "a" }))]
    session.Reachable ∧
      ∃ files ordered chosen : List (NarFile Int),
        Catalog.readAll session.catalog.narFiles = .ok files ∧
        InOrderOfUse (·.lastAccessedAt) (·.id) files ordered ∧
        ordered.map (·.id) = [2, 3, 4, 1] ∧
        (session.perform .epoch (.read (.leastUsedFiles 350))).1 = .ok (.narFiles chosen) ∧
        chosen.map (·.id) = [2, 3] ∧
        LongestAffordable (·.fileSize) 350 ordered chosen := by
  intro create session
  have h : session.Reachable := (Reachable.fresh .sqlite).after _
  let a : NarFile Int := .touched 1 (.fresh 1 { hash := "a" } 100 0 0)
  let b : NarFile Int := .fresh 2 { hash := "b" } 200 0 0
  let c : NarFile Int := .fresh 3 { hash := "c" } 0 0 0
  let d : NarFile Int := .fresh 4 { hash := "d" } 300 0 0
  obtain ⟨files, ordered, hread, horder, -, hanswer⟩ :=
    h.leastUsedFiles_longestAffordable .epoch 350
  have hfiles : Catalog.readAll session.catalog.narFiles = .ok [a, b, c, d] := by decide +kernel
  obtain rfl := Except.ok.inj (hread.symm.trans hfiles)
  obtain rfl : ordered = [b, c, d, a] := horder.unique ⟨by decide +kernel, by decide⟩
  rw [if_neg (by decide)] at hanswer
  obtain ⟨chosen, hreply, hlongest⟩ := hanswer
  obtain rfl : chosen = [b, c] :=
    hlongest.unique (.cons (.cons (.of_lt (by decide) (by decide) (by decide))))
  exact ⟨h, _, _, _, hread, horder, rfl, hreply, rfl, hlongest⟩

/-- The NarInfos that a budget affords are the longest prefix of all NarInfos, in the order of their
use, that stays within the budget, each weighed by the NAR files it is linked to, or, if it has no
link, by the size it names itself.  A NAR file counts once for each NarInfo that is linked to it.
If the weights of all NarInfos cannot be added up, the call fails instead.  It changes nothing. -/
theorem Reachable.leastUsedNarInfos_longestAffordable {session : Session} (h : session.Reachable)
    (now : Time.Timestamp) (budget : UInt64) :
    ∃ (files : List (NarFile Int)) (infos ordered : List (NarInfo Int)),
      Catalog.readAll session.catalog.narFiles = .ok files ∧
      Catalog.readAll session.catalog.narInfos = .ok infos ∧
      InOrderOfUse (·.lastAccessedAt) (·.id) infos ordered ∧
      let fileLinks := session.catalog.fileLinks
      let reply := session.perform now (.read (.leastUsedNarInfos budget))
      reply.2 = session ∧
      (if maxInteger < (infos.map (weight fileLinks files)).sum then
        reply.1 = .error (.database "query" .sumOverflowed)
      else
        ∃ chosen, reply.1 = .ok (.narInfos chosen) ∧
          LongestAffordable (weight fileLinks files) budget.toNat ordered chosen) ∧
      ∀ rows : List (NarInfo Int),
        (rows.map (weight fileLinks files)).sum
          = (files.map fun file => rows.countP (links fileLinks · file) * file.fileSize).sum
            + ((rows.filter fun row => !fileLinks.any (·.narInfo == row.id)).map
                (·.details.fileSize.getD 0)).sum := by
  have hcatalog := h.wellFormed.catalog
  obtain ⟨files, hfiles⟩ := Catalog.readAll_of_sound hcatalog.narFiles.sound
  obtain ⟨infos, hinfos⟩ := Catalog.readAll_of_sound hcatalog.narInfos.sound
  obtain ⟨ordered, horder, hanswer⟩ := leastUsedNarInfos_selects hcatalog budget hfiles hinfos
  exact ⟨files, infos, ordered, hfiles, hinfos, horder, rfl, hanswer, Catalog.sum_weight _ files⟩

/-- Two NarInfos that share a NAR file, one that has no link but a size of its own, and a
placeholder. -/
theorem leastUsedNarInfos_longestAffordable_shared :
    let session := (fresh .sqlite).after (Event.calls ([
      .createNarFile ⟨{ hash := "a" }, 500, 0⟩,
      .createNarInfo (placeholder "x"), .linkNarInfoToFile 1 1,
      .createNarInfo (placeholder "y"), .linkNarInfoToFile 2 1,
      .createNarInfo { hash := "z", fileSize := some 4096 },
      .createNarInfo (placeholder "p")].map fun change => (.epoch, .write change)))
    session.Reachable ∧
      ∃ (files : List (NarFile Int)) (infos ordered chosen : List (NarInfo Int)),
        InOrderOfUse (·.lastAccessedAt) (·.id) infos ordered ∧
        (session.perform .epoch (.read (.leastUsedNarInfos 1000))).1 = .ok (.narInfos chosen) ∧
        chosen.map (·.id) = [1, 2] ∧
        Catalog.readAll session.catalog.narFiles = .ok files ∧
        (chosen.map (weight session.catalog.fileLinks files)).sum = 1000 ∧
        LongestAffordable (weight session.catalog.fileLinks files) 1000 ordered chosen := by
  intro session
  have h : session.Reachable := (Reachable.fresh .sqlite).after _
  let x : NarInfo Int := .fresh 1 "x" {} 0
  let y : NarInfo Int := .fresh 2 "y" {} 0
  let z : NarInfo Int := .fresh 3 "z" { fileSize := some 4096 } 0
  let p : NarInfo Int := .fresh 4 "p" {} 0
  obtain ⟨files, infos, ordered, hfiles, hinfos, horder, -, hanswer, -⟩ :=
    h.leastUsedNarInfos_longestAffordable .epoch 1000
  have hfile : Catalog.readAll session.catalog.narFiles
      = .ok [.fresh 1 { hash := "a" } 500 0 0] := by
    decide +kernel
  have hrows : Catalog.readAll session.catalog.narInfos = .ok [x, y, z, p] := by decide +kernel
  obtain rfl := Except.ok.inj (hfiles.symm.trans hfile)
  obtain rfl := Except.ok.inj (hinfos.symm.trans hrows)
  obtain rfl : ordered = [x, y, z, p] := horder.unique ⟨.refl _, by decide⟩
  rw [if_neg (by decide +kernel)] at hanswer
  obtain ⟨chosen, hreply, hlongest⟩ := hanswer
  obtain rfl : chosen = [x, y] := hlongest.unique
    (.cons (.cons (.of_lt (by decide +kernel) (by decide +kernel) (by decide +kernel))))
  exact ⟨h, _, _, _, _, horder, hreply, rfl, hfiles, by decide +kernel, hlongest⟩

/-! ## making room -/

/-- The calls of an eviction: each of the selected NarInfos is deleted by its id, and after that the
NAR files that no NarInfo is linked to. -/
def evictions (chosen : List (NarInfo Int)) : List Operation :=
  chosen.map (fun row => .write (.deleteNarInfoById row.id)) ++ [.write .deleteOrphanedFiles]

/-- A call that succeeds, and then others that all succeed. -/
theorem calls_cons {session next last : Session} {now : Time.Timestamp} {operation : Operation}
    {answer : Answer} {calls : List (Time.Timestamp × Operation)}
    (hcall : session.perform now operation = (.ok answer, next))
    (hcalls : next.AllSucceed calls ∧ next.after (Event.calls calls) = last) :
    session.AllSucceed ((now, operation) :: calls) ∧
      session.after (Event.calls ((now, operation) :: calls)) = last := by
  rw [allSucceed_cons, after_calls_cons, hcall]
  exact ⟨⟨⟨answer, rfl⟩, hcalls.1⟩, hcalls.2⟩

section evictions

variable {session : Session} {chosen : List (NarInfo Int)}
  {calls : List (Time.Timestamp × Operation)} (hcalls : calls.map (·.2) = evictions chosen)
include hcalls

/-- What the calls of an eviction come to, unless another connection has locked the store. -/
theorem after_evictions (free : session.contended = false) :
    session.AllSucceed calls ∧
      session.after (Event.calls calls)
        = { session with catalog := session.catalog.evicted (chosen.map (·.id)) } := by
  induction chosen generalizing session calls with
  | nil =>
    obtain ⟨⟨now, sweep⟩, rest, rfl, rfl, hrest⟩ := List.map_eq_cons_iff.1 hcalls
    rw [List.map_eq_nil_iff.1 hrest]
    refine calls_cons (perform_sweep free now .narFiles) ⟨allSucceed_nil _, ?_⟩
    rw [List.map_nil, Catalog.evicted_nil]
    rfl
  | cons row chosen ih =>
    obtain ⟨⟨now, deletion⟩, rest, rfl, rfl, hrest⟩ := List.map_eq_cons_iff.1 hcalls
    let next : Session :=
      { session with catalog := session.catalog.withoutNarInfos (·.id == row.id) }
    have hdeleted : session.perform now (.write (.deleteNarInfoById row.id)) = (.ok _, next) :=
      perform_counted (fun _ => rfl) free rfl
    rw [List.map_cons, ← Catalog.evicted_cons]
    exact calls_cons hdeleted (@ih next rest hrest free)

end evictions

/-- An eviction frees no more than its budget of the NAR files that had a link.  NarInfos that stay
are linked to the same NAR files as before, and these are as they were.  Unless another connection
has locked the store, all calls of the eviction succeed, and what stays of the NarInfos are those
that were not selected. -/
theorem Reachable.eviction_frees_at_most {session : Session} (h : session.Reachable)
    {now : Time.Timestamp} {budget : UInt64} {chosen : List (NarInfo Int)}
    (selected : (session.perform now (.read (.leastUsedNarInfos budget))).1
      = .ok (.narInfos chosen))
    {calls : List (Time.Timestamp × Operation)} (hcalls : calls.map (·.2) = evictions chosen) :
    let after := session.after (Event.calls calls)
    (∃ files : List (NarFile Int),
      Catalog.readAll session.catalog.narFiles = .ok files ∧
      ((files.filter fun file =>
          !after.catalog.hasNarFile file.id
            && session.catalog.fileLinks.any (·.narFile == file.id)).map (·.fileSize)).sum
        ≤ budget.toNat) ∧
    (∀ row ∈ after.catalog.narInfos,
      row ∈ session.catalog.narInfos ∧
        after.catalog.filesOf row.id = session.catalog.filesOf row.id ∧
        ∀ narFile,
          after.catalog.isLinked row.id narFile = session.catalog.isLinked row.id narFile) ∧
    (session.contended = false →
      session.AllSucceed calls ∧
        after.catalog.narInfos = session.catalog.narInfos.filter fun row =>
          !(chosen.map (·.id)).contains row.id) := by
  intro after
  have hcatalog := h.wellFormed.catalog
  obtain ⟨files, hread⟩ := Catalog.readAll_of_sound hcatalog.narFiles.sound
  obtain ⟨infos, hinfosRead⟩ := Catalog.readAll_of_sound hcatalog.narInfos.sound
  obtain ⟨hfiles, hfilesRange, -⟩ := hcatalog.narFiles.rows_of_readAll hread
  obtain ⟨-, hinfosRange, -⟩ := hcatalog.narInfos.rows_of_readAll hinfosRead
  cases hlock : session.contended with
  | true =>
    have hafter : after = session := after_calls_of_contended hlock calls
    rw [hafter]
    refine ⟨⟨files, hread, ?_⟩, fun row hrow => ⟨hrow, rfl, fun _ => rfl⟩, by simp⟩
    have hnone : (files.filter fun file => !session.catalog.hasNarFile file.id
        && session.catalog.fileLinks.any (·.narFile == file.id)) = [] := by
      rw [List.filter_eq_nil_iff]
      intro file hfile
      simp [Catalog.hasNarFile_of_mem hfiles hfile]
    rw [hnone]
    exact Int.natCast_nonneg _
  | false =>
    obtain ⟨hall, hafter⟩ := after_evictions hcalls hlock
    obtain ⟨ordered, horder, hanswer⟩ :=
      leastUsedNarInfos_selects hcatalog budget hread hinfosRead
    have hlongest : LongestAffordable (weight session.catalog.fileLinks files) budget.toNat
        ordered chosen := by
      change (leastUsedNarInfos session.catalog budget).map Answer.narInfos = _ at selected
      dsimp only at hanswer
      rw [selected] at hanswer
      split at hanswer
      · contradiction
      · obtain ⟨other, heq, hlongest⟩ := hanswer
        rwa [Answer.narInfos.inj (Except.ok.inj heq)]
    have hchosen : ∀ row ∈ chosen, InRange row := fun row hrow =>
      hinfosRange row (horder.perm.mem_iff.1 (hlongest.begins.subset hrow))
    have hevicted : after.catalog = session.catalog.evicted (chosen.map (·.id)) :=
      congrArg Session.catalog hafter
    rw [hevicted]
    refine ⟨⟨files, hread, ?_⟩, fun row hrow => ?_, fun _ => ⟨hall, Catalog.narInfos_evicted⟩⟩
    · exact (Catalog.freed_le hfiles hfilesRange hchosen).trans hlongest.within
    · rw [Catalog.narInfos_evicted, List.mem_filter] at hrow
      have hstays : row.id ∉ chosen.map (·.id) := by simpa using hrow.2
      exact ⟨hrow.1, Catalog.filesOf_evicted hstays, Catalog.isLinked_evicted hstays⟩

/-- Of three NarInfos the first two are selected, and of the NAR files linked to these one is
linked to the third NarInfo as well.  A NAR file without any link goes besides. -/
theorem eviction_frees_at_most_shared :
    let session := (fresh .sqlite).after (Event.calls ([
      .createNarFile ⟨{ hash := "a" }, 500, 0⟩, .createNarFile ⟨{ hash := "b" }, 40, 0⟩,
      .createNarFile ⟨{ hash := "c" }, 7, 0⟩,
      .createNarInfo (placeholder "x"), .linkNarInfoToFile 1 1,
      .createNarInfo (placeholder "y"), .linkNarInfoToFile 2 1, .linkNarInfoToFile 2 2,
      .createNarInfo (placeholder "z"), .linkNarInfoToFile 3 2].map
        fun change => (.epoch, .write change)))
    let chosen : List (NarInfo Int) := [.fresh 1 "x" {} 0, .fresh 2 "y" {} 0]
    let calls := (evictions chosen).map fun operation => (.epoch, operation)
    let after := session.after (Event.calls calls)
    session.Reachable ∧
      (session.perform .epoch (.read (.leastUsedNarInfos 1040))).1 = .ok (.narInfos chosen) ∧
      calls.map (·.2) = evictions chosen ∧
      session.AllSucceed calls ∧
      after.catalog.narFiles.map (·.id) = [2] ∧
      (∃ files : List (NarFile Int),
        Catalog.readAll session.catalog.narFiles = .ok files ∧
        ((files.filter fun file =>
            !after.catalog.hasNarFile file.id
              && session.catalog.fileLinks.any (·.narFile == file.id)).map (·.fileSize)).sum
          ≤ 1040) ∧
      ∀ row ∈ after.catalog.narInfos,
        after.catalog.filesOf row.id = session.catalog.filesOf row.id := by
  intro session chosen calls after
  have h : session.Reachable := (Reachable.fresh .sqlite).after _
  have hfiles : Catalog.readAll session.catalog.narFiles = .ok
      [.fresh 1 { hash := "a" } 500 0 0, .fresh 2 { hash := "b" } 40 0 0,
        .fresh 3 { hash := "c" } 7 0 0] := by
    decide +kernel
  have hinfos : Catalog.readAll session.catalog.narInfos
      = .ok (chosen ++ [.fresh 3 "z" {} 0]) := by
    decide +kernel
  have selected :
      (session.perform .epoch (.read (.leastUsedNarInfos 1040))).1 = .ok (.narInfos chosen) := by
    obtain ⟨ordered, horder, hanswer⟩ :=
      leastUsedNarInfos_selects h.wellFormed.catalog 1040 hfiles hinfos
    obtain rfl : ordered = chosen ++ [.fresh 3 "z" {} 0] := horder.unique ⟨.refl _, by decide⟩
    rw [if_neg (by decide +kernel)] at hanswer
    obtain ⟨other, hreply, hlongest⟩ := hanswer
    obtain rfl : other = chosen := hlongest.unique
      (.cons (.cons (.of_lt (by decide +kernel) (by decide +kernel) (by decide +kernel))))
    exact hreply
  have hcalls : calls.map (·.2) = evictions chosen := rfl
  obtain ⟨hfreed, hstay, hfree⟩ := h.eviction_frees_at_most selected hcalls
  exact ⟨h, selected, hcalls, (hfree rfl).1, by decide +kernel, hfreed,
    fun row hrow => (hstay row hrow).2.1⟩

end Session

end NarIndex.Store
