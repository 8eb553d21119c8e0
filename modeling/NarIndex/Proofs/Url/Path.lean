import NarIndex.Proofs.Text.Split
import NarIndex.Proofs.Text.Utf8
import NarIndex.Proofs.Url.Percent
import NarIndex.Url.Parser

/-!
# NarIndex.Proofs.Url.Path

Rooted paths are read as they are written (`root_joinWith`, `pathBehind_text`).  What reading leaves
of a path are segments that stand for themselves (`exists_root`): escaped, without a slash, and
neither of them a dot segment, so that nothing is left to resolve.
-/

namespace NarIndex.Url.Path

open NarIndex.Text

/-- Whether a segment stands for itself. -/
structure IsSegment (segment : List Char) : Prop where
  escaped : IsEscaped inPathSet segment
  noSlash : '/' ∉ segment
  notDot : isDot segment = false
  notDotDot : isDotDot segment = false

/-- Whether a path is rooted, with segments that stand for themselves. -/
def IsResolved (segments : List (List Char)) : Prop :=
  ∀ segment ∈ segments, IsSegment segment

variable {segments done : List (List Char)} {segment s : List Char}

theorem isSegment_nil : IsSegment [] :=
  ⟨by simp [IsEscaped], List.not_mem_nil, by simp [isDot, unescapePoints],
    by simp [isDotDot, unescapePoints]⟩

/-! ## resolving -/

/-- Segments without dot segments are taken over as they are. -/
theorem resolveOnto_of_isResolved (done : List (List Char)) (h : IsResolved segments) :
    resolveOnto done segments = done.reverse ++ segments := by
  induction segments generalizing done with
  | nil => simp [resolveOnto]
  | cons segment segments ih =>
    obtain ⟨hsegment, hsegments⟩ := List.forall_mem_cons.1 h
    simp [resolveOnto, hsegment.notDot, hsegment.notDotDot, ih _ hsegments]

theorem resolve_of_isResolved (h : IsResolved segments) : resolve segments = segments :=
  resolveOnto_of_isResolved [] h

/-- A dot segment at the end, or an empty one, leaves an empty segment there. -/
theorem exists_resolve_append (h : IsResolved segments)
    (hlast : segment = [] ∨ isDot segment ∨ isDotDot segment) :
    ∃ front, resolve (segments ++ [segment]) = front ++ [[]] := by
  have happend (done : List (List Char)) :
      resolveOnto done (segments ++ [segment])
        = resolveOnto (segments.reverse ++ done) [segment] := by
    induction segments generalizing done with
    | nil => rfl
    | cons first rest ih =>
      obtain ⟨hfirst, hrest⟩ := List.forall_mem_cons.1 h
      simp [resolveOnto, hfirst.notDot, hfirst.notDotDot, ih hrest]
  rw [resolve, happend, List.append_nil, resolveOnto]
  by_cases hdotDot : isDotDot segment
  · exact ⟨(goUp segments.reverse).reverse, by simp [hdotDot, resolveOnto]⟩
  · by_cases hdot : isDot segment
    · exact ⟨segments, by simp [hdotDot, hdot, resolveOnto]⟩
    · have hempty : segment = [] := by simpa [hdotDot, hdot] using hlast
      subst hempty
      exact ⟨segments, by simp [isSegment_nil.notDot, isSegment_nil.notDotDot, resolveOnto]⟩

/-- One step up brings no segment in. -/
theorem goUp_subset (segments : List (List Char)) : goUp segments ⊆ segments := by
  cases segments with
  | nil => exact List.nil_subset _
  | cons top below =>
    rw [goUp]
    split
    · exact List.Subset.refl _
    · exact List.subset_cons_self top below

/-- A resolved path has only segments of the one it comes from, and empty ones; dot segments are
gone. -/
theorem isSegment_of_mem_resolveOnto (hdone : IsResolved done)
    (hsegments : ∀ segment ∈ segments, IsEscaped inPathSet segment ∧ '/' ∉ segment) :
    IsResolved (resolveOnto done segments) := by
  induction segments generalizing done with
  | nil => exact fun segment h => hdone segment (List.mem_reverse.1 h)
  | cons segment rest ih =>
    obtain ⟨⟨hescaped, hslash⟩, hrest⟩ := List.forall_mem_cons.1 hsegments
    have hlast : IsResolved (if rest.isEmpty then [[]] else []) := by
      split <;> simp [IsResolved, isSegment_nil]
    rw [resolveOnto]
    by_cases hdotDot : isDotDot segment
    · rw [if_pos hdotDot]
      exact ih (List.forall_mem_append.2 ⟨hlast, fun s hs => hdone s (goUp_subset done hs)⟩) hrest
    · rw [if_neg hdotDot]
      by_cases hdot : isDot segment
      · rw [if_pos hdot]
        exact ih (List.forall_mem_append.2 ⟨hlast, hdone⟩) hrest
      · rw [if_neg hdot]
        have hsegment : IsSegment segment :=
          ⟨hescaped, hslash, by simpa using hdot, by simpa using hdotDot⟩
        exact ih (List.forall_mem_cons.2 ⟨hsegment, hdone⟩) hrest

theorem resolveOnto_ne_nil (done : List (List Char)) (h : segments ≠ []) :
    resolveOnto done segments ≠ [] := by
  induction segments generalizing done with
  | nil => contradiction
  | cons segment rest ih =>
    rw [resolveOnto]
    by_cases hrest : rest = []
    · subst hrest
      split
      · simp [resolveOnto]
      · split <;> simp [resolveOnto]
    · split
      · exact ih _ hrest
      · split
        · exact ih _ hrest
        · exact ih _ hrest

/-! ## reading -/

theorem isEscaped_escape_path (s : List Char) : IsEscaped inPathSet (escape inPathSet s) :=
  isEscaped_escape (by decide) (by decide) s

theorem slash_notMem_escape {set : Char → Bool} (h : '/' ∉ s) : '/' ∉ escape set s :=
  fun hmem => h (mem_of_mem_escape (by decide) (by decide) hmem)

/-- What is read of a path. -/
theorem exists_root (s : List Char) :
    ∃ segments, root s = .rooted segments ∧ segments ≠ [] ∧ IsResolved segments := by
  refine ⟨_, rfl, resolveOnto_ne_nil _ (by simp [splitOn_ne_nil]),
    isSegment_of_mem_resolveOnto (by simp [IsResolved]) ?_⟩
  simp only [List.forall_mem_map]
  exact fun piece hpiece =>
    ⟨isEscaped_escape_path piece, slash_notMem_escape (of_mem_splitOn hpiece).1⟩

/-- Behind an authority a path is rooted, and has no dot segments. -/
theorem exists_pathBehind (s : List Char) :
    ∃ segments, pathBehind s = .rooted segments ∧ IsResolved segments := by
  have hroot (t : List Char) : ∃ segments, root t = .rooted segments ∧ IsResolved segments := by
    obtain ⟨segments, hsegments, -, hresolved⟩ := exists_root t
    exact ⟨segments, hsegments, hresolved⟩
  cases s with
  | nil => exact ⟨[], rfl, by simp [IsResolved]⟩
  | cons c s =>
    rw [pathBehind]
    split
    · exact hroot s
    · exact hroot (c :: s)

/-! ## writing -/

/-- A rooted path is its segments with slashes between them, behind a slash. -/
theorem text_rooted_cons (segment : List Char) (segments : List (List Char)) :
    (rooted (segment :: segments)).text = '/' :: joinWith ['/'] (segment :: segments) :=
  flatMap_cons_eq_joinWith '/' segment segments

/-- A path of escaped segments is read with its dot segments resolved. -/
theorem root_joinWith_eq (hne : segments ≠ [])
    (h : ∀ segment ∈ segments, IsEscaped inPathSet segment ∧ '/' ∉ segment) :
    root (joinWith ['/'] segments) = .rooted (resolve segments) := by
  have hescape : segments.map (escape inPathSet) = segments :=
    (List.map_congr_left fun segment hsegment => (h segment hsegment).1.escape).trans
      (List.map_id' segments)
  rw [root, splitOn_joinWith hne fun segment hsegment => (h segment hsegment).2, hescape]

/-- Segments that were resolved are escaped, and have no slash. -/
theorem IsResolved.escaped (h : IsResolved segments) :
    ∀ segment ∈ segments, IsEscaped inPathSet segment ∧ '/' ∉ segment :=
  fun segment hsegment => ⟨(h segment hsegment).escaped, (h segment hsegment).noSlash⟩

/-- A path is read as it is written. -/
theorem root_joinWith (hne : segments ≠ []) (h : IsResolved segments) :
    root (joinWith ['/'] segments) = .rooted segments := by
  rw [root_joinWith_eq hne h.escaped, resolve_of_isResolved h]

/-- A segment alone is a path. -/
theorem root_of_isSegment (h : IsSegment segment) : root segment = .rooted [segment] :=
  root_joinWith (List.cons_ne_nil _ _) (List.forall_mem_singleton.2 h)

/-- A path is read as it is written, but for its dot segments. -/
theorem pathBehind_text (h : ∀ segment ∈ segments, IsEscaped inPathSet segment ∧ '/' ∉ segment) :
    pathBehind (rooted segments).text = .rooted (resolve segments) := by
  cases segments with
  | nil => rfl
  | cons segment segments =>
    rw [text_rooted_cons, pathBehind, if_pos rfl, root_joinWith_eq (List.cons_ne_nil _ _) h]

/-- A path of one segment is its root and the segment. -/
theorem dropSlashes_text_singleton (hne : segment ≠ []) (hslash : '/' ∉ segment) :
    (rooted [segment]).text.dropWhile (· == '/') = segment := by
  obtain ⟨c, rest, rfl⟩ := List.exists_cons_of_ne_nil hne
  have hc : c ≠ '/' := fun heq => hslash (heq ▸ List.mem_cons_self)
  simp [text, hc]

/-- What stands behind the last slash of a path is its last segment. -/
theorem isSegment_of_text_eq {directory : List Char} (h : IsResolved segments)
    (htext : (rooted segments).text = directory ++ '/' :: segment) (hslash : '/' ∉ segment) :
    IsSegment segment := by
  cases segments with
  | nil => simp [text] at htext
  | cons first more =>
    have hmarks : ∀ s ∈ first :: more, '/' ∉ s := fun s hs => (h s hs).noSlash
    have hsplit := congrArg (splitOn '/') htext
    rw [text_rooted_cons, ← List.nil_append ('/' :: _), splitOn_append_cons, splitOn_append_cons,
      splitOn_joinWith (List.cons_ne_nil _ _) hmarks, splitOn_of_notMem hslash] at hsplit
    have hlast := congrArg List.getLast? hsplit
    rw [List.getLast?_append, List.getLast?_append] at hlast
    have hmem : (first :: more).getLast? = some segment := by simpa using hlast
    exact h segment (List.mem_of_getLast? hmem)

/-! ## escaped segments -/

/-- A way to escape the segments of a path, so that they can be told apart from each other, from the
parts of the URL around them, and from other escaped segments. -/
structure IsEncoding (set : Char → Bool) : Prop where
  path : ∀ c, inPathSet c = true → set c = true
  percent : set '%' = true
  slash : set '/' = false

section
variable {set : Char → Bool} {rest : List Char}

/-- The segments of a path are escaped one by one. -/
theorem escape_text (hslash : set '/' = false) (segments : List (List Char)) :
    escape set (rooted segments).text = (rooted (segments.map (escape set))).text := by
  have hroot (segment : List Char) : escape set ('/' :: segment) = '/' :: escape set segment := by
    have hchar : escapeChar set '/' = ['/'] := by simp [escapeChar, hslash]
    change escapeChar set '/' ++ escape set segment = _
    rw [hchar]
    rfl
  induction segments with
  | nil => rfl
  | cons segment segments ih =>
    simp only [text, List.flatMap_cons, List.map_cons] at ih ⊢
    rw [escape_append, hroot, ih]

/-- Behind a point, in one of its three spellings, the rest of the segment is read. -/
theorem exists_of_unescapePoints_eq (h : unescapePoints s = '.' :: rest) :
    ∃ t, unescapePoints t = rest ∧ unescape (utf8 s) = 0x2E :: unescape (utf8 t) := by
  rw [unescapePoints.eq_def] at h
  split at h
  · rename_i c t
    split at h
    · rename_i hc
      refine ⟨t, (List.cons.inj h).2, ?_⟩
      have hescaped : ∃ b, utf8 ('%' :: '2' :: c :: t) = 0x25 :: 0x32 :: b :: utf8 t ∧
          byteValue? b = some 14 := by
        rcases hc with rfl | rfl
        · exact ⟨0x65, rfl, by decide⟩
        · exact ⟨0x45, rfl, by decide⟩
      obtain ⟨b, hutf8, hvalue⟩ := hescaped
      have htwo : byteValue? 0x32 = some 2 := by decide
      rw [hutf8, unescape]
      simp [htwo, hvalue]
    · exact absurd (List.cons.inj h).1 (by decide)
  · rename_i c t _
    obtain ⟨rfl, ht⟩ := List.cons.inj h
    exact ⟨t, ht, unescape_cons (by decide) (utf8 t)⟩
  · contradiction

theorem eq_nil_of_unescapePoints_eq (h : unescapePoints s = []) : s = [] := by
  rw [unescapePoints.eq_def] at h
  split at h
  · split at h <;> contradiction
  · contradiction
  · rfl

/-- A character that no spelling of a point is written with stays where it is. -/
theorem mem_unescapePoints {c : Char} (hc : c ∉ ['%', '2', 'e', 'E']) (h : c ∈ s) :
    c ∈ unescapePoints s := by
  fun_induction unescapePoints s with
  | case1 d s hd ih =>
    have hmem : c ∈ s := by
      rcases hd with rfl | rfl <;> simp_all
    exact List.mem_cons_of_mem _ (ih hmem)
  | case2 d s hd ih => simp_all
  | case3 d s hplain ih =>
    rcases List.mem_cons.1 h with rfl | hmem
    · exact List.mem_cons_self
    · exact List.mem_cons_of_mem d (ih hmem)
  | case4 => contradiction

/-- Only a dot segment is escaped to one. -/
theorem isSegment_escape (hset : IsEncoding set) (hslash : '/' ∉ s) (hdot : s ≠ ['.'])
    (hdotDot : s ≠ ['.', '.']) : IsSegment (escape set s) := by
  have hread {t : List Char} (h : unescape (utf8 (escape set s)) = utf8 t) : s = t := by
    rw [unescape_escape hset.percent] at h
    rw [← readUtf8_utf8 s, h, readUtf8_utf8]
  refine ⟨fun c hc => ?_, slash_notMem_escape hslash, ?_, ?_⟩
  · rcases of_mem_escape hc with ⟨-, hascii, hplain⟩ | ⟨b, hb⟩
    · exact ⟨hascii, Bool.eq_false_iff.2 fun hin =>
        Bool.false_ne_true (hplain.symm.trans (hset.path c hin))⟩
    · exact ⟨toNat_lt_of_mem_escapeByte hb,
        set_eq_false_of_mem_escapeByte (by decide) (by decide) hb⟩
  · refine Bool.eq_false_iff.2 fun h => hdot (hread ?_)
    obtain ⟨t, ht, hbytes⟩ := exists_of_unescapePoints_eq (beq_iff_eq.1 h)
    rw [hbytes, eq_nil_of_unescapePoints_eq ht]
    simp [unescape, utf8Char]
  · refine Bool.eq_false_iff.2 fun h => hdotDot (hread ?_)
    obtain ⟨t, ht, hbytes⟩ := exists_of_unescapePoints_eq (beq_iff_eq.1 h)
    obtain ⟨u, hu, hbytes'⟩ := exists_of_unescapePoints_eq ht
    rw [hbytes, hbytes', eq_nil_of_unescapePoints_eq hu]
    simp [unescape, utf8Char]

end

/-- A text with neither percent signs nor dot segments is the path it spells, but for what is
escaped. -/
theorem exists_text_root (hpercent : '%' ∉ s)
    (hdots : ∀ piece ∈ splitOn '/' s, piece ≠ ['.'] ∧ piece ≠ ['.', '.']) :
    ∃ set segments, root s = .rooted segments ∧ IsResolved segments ∧
      (rooted segments).text = escape set ('/' :: s) := by
  let set (c : Char) : Bool := inPathSet c || c == '%'
  have hset : IsEncoding set := ⟨fun c hc => by simp [set, hc], by decide, by decide⟩
  have hescape : (splitOn '/' s).map (escape inPathSet) = (splitOn '/' s).map (escape set) := by
    refine List.map_congr_left fun piece hpiece => escape_congr fun c hc => ?_
    have hc : c ≠ '%' := fun heq => hpercent (heq ▸ (of_mem_splitOn hpiece).2 hc)
    simp [set, hc]
  have hresolved : IsResolved ((splitOn '/' s).map (escape set)) := by
    refine List.forall_mem_map.2 fun piece hpiece => ?_
    obtain ⟨hdot, hdotDot⟩ := hdots piece hpiece
    exact isSegment_escape hset (of_mem_splitOn hpiece).1 hdot hdotDot
  have htext : (rooted (splitOn '/' s)).text = '/' :: s := by
    obtain ⟨piece, pieces, hs⟩ := List.exists_cons_of_ne_nil (splitOn_ne_nil '/' s)
    rw [hs, text_rooted_cons, ← hs, joinWith_splitOn]
  refine ⟨set, _, ?_, hresolved, ?_⟩
  · rw [root, hescape, resolve_of_isResolved hresolved]
  · rw [← escape_text hset.slash, htext]

end NarIndex.Url.Path
