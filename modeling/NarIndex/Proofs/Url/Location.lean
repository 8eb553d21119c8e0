import NarIndex.Proofs.Url.RoundTrip

/-!
# NarIndex.Proofs.Url.Location

URLs without an authority.  Their paths can be read otherwise than they are written: with a point
before them, or without blanks at the end.  But no such path is taken for an authority, and the
query behind it is read as it is written (`parse_text_of_isLocal`).
-/

namespace NarIndex.Url

open NarIndex.Text

variable {scheme s : List Char} {query fragment : Option (List Char)} {c : Char} {url : Url}

/-! ## paths -/

/-- Whether a text is read as a path before which no authority stands: it does not begin as an
authority does, and nothing in it ends a path or is left out in reading. -/
structure IsLocation (s : List Char) : Prop where
  noAuthority : ¬['/', '/'] <+: s
  chars : ∀ c ∈ s, c ∉ ['?', '#', '\t', '\n', '\r']

theorem IsLocation.of_prefix {t : List Char} (h : IsLocation s) (ht : t <+: s) : IsLocation t :=
  ⟨fun hp => h.noAuthority (hp.trans ht), fun c hc => h.chars c (ht.subset hc)⟩

/-- A location has no line ends and tabs to lose. -/
theorem unbroken_of_isLocation (h : IsLocation s) : unbroken s = s := by
  have hbreaks : ['\t', '\n', '\r'] ⊆ ['?', '#', '\t', '\n', '\r'] := by simp
  exact unbroken_of_forall fun c hc hbreak => h.chars c hc (hbreaks hbreak)

/-- One slash in front begins a path. -/
theorem readPlain_root (h : ¬['/', '/'] <+: '/' :: s) :
    readPlain ⟨'/' :: s, query, fragment⟩ = .ok (none, Path.root s) := by
  cases s with
  | nil => rfl
  | cons c s =>
    have hc : c ≠ '/' := fun heq => h ⟨s, by rw [heq]; rfl⟩
    simp [readPlain, hc]

/-- No slash in front is a path without a root. -/
theorem readPlain_free (h : ¬['/'] <+: s) :
    readPlain ⟨s, query, fragment⟩ = .ok (none, Path.free s) := by
  cases s with
  | nil => rfl
  | cons c s =>
    have hc : c ≠ '/' := fun heq => h ⟨s, by rw [heq]; rfl⟩
    simp [readPlain, hc]

/-- A location is read as a path without an authority. -/
theorem exists_readPlain_of_isLocation (h : IsLocation s) :
    ∃ path, readPlain ⟨s, query, fragment⟩ = .ok (none, path) := by
  by_cases hroot : ['/'] <+: s
  · obtain ⟨t, rfl⟩ := hroot
    exact ⟨_, readPlain_root h.noAuthority⟩
  · exact ⟨_, readPlain_free hroot⟩

/-- What has no control left to escape has neither tabs nor line ends. -/
theorem isLocation_of_isEscaped (h : IsEscaped isControl s) (hroot : ¬['/', '/'] <+: s)
    (hmarks : '?' ∉ s ∧ '#' ∉ s) : IsLocation s := by
  refine ⟨hroot, fun c hc hmem => ?_⟩
  have hbreaks : ['\t', '\n', '\r'].all isControl := by decide
  rcases List.mem_cons.1 hmem with rfl | hmem
  · exact hmarks.1 hc
  rcases List.mem_cons.1 hmem with rfl | hmem
  · exact hmarks.2 hc
  · exact h.notMem (List.all_eq_true.1 hbreaks c hmem) hc

/-- Whether a URL has no authority, and components in a form in which they can be read. -/
structure IsLocal (url : Url) : Prop where
  authority : url.authority = none
  rooted : ∀ segments, url.path = .rooted segments →
    ∀ segment ∈ segments, IsEscaped inPathSet segment ∧ '/' ∉ segment
  unrooted : ∀ t, url.path = .unrooted t → IsLocation t
  query : ∀ q ∈ url.query, IsEscaped inQuerySet q
  fragment : ∀ f ∈ url.fragment, IsEscaped inFragmentSet f

/-- A path with two leading slashes has a point before it, and no other path has. -/
theorem location_cases {segments : List (List Char)} (ha : url.authority = none)
    (hpath : url.path = .rooted segments) (hsegments : ∀ segment ∈ segments, '/' ∉ segment) :
    (['/', '/'] <+: (Path.rooted segments).text ∧
        url.location = '/' :: '.' :: (Path.rooted segments).text) ∨
      (¬['/', '/'] <+: (Path.rooted segments).text ∧
        url.location = (Path.rooted segments).text) := by
  rw [location, ha, hpath]
  rcases segments with _ | ⟨_ | ⟨d, segment⟩, more⟩
  · exact .inr ⟨by simp [Path.text], rfl⟩
  · cases more with
    | nil => exact .inr ⟨by simp [Path.text, List.cons_prefix_cons], rfl⟩
    | cons segment more => exact .inl ⟨by simp [Path.text, List.cons_prefix_cons], rfl⟩
  · have hd : '/' ≠ d := fun heq =>
      hsegments _ List.mem_cons_self (heq ▸ List.mem_cons_self)
    exact .inr ⟨by simp [Path.text, List.cons_prefix_cons, hd], rfl⟩

/-- What stands between the scheme and the query is read as a path. -/
theorem IsLocal.isLocation (h : url.IsLocal) : IsLocation url.location := by
  cases hpath : url.path with
  | unrooted t =>
    have hlocation : url.location = t := by simp [location, h.authority, hpath, Path.text]
    exact hlocation ▸ h.unrooted t hpath
  | rooted segments =>
    have hsegments := h.rooted segments hpath
    have hchars : ∀ c ∈ (Path.rooted segments).text, c ∉ ['?', '#', '\t', '\n', '\r'] := by
      intro c hc hmem
      obtain ⟨hvisible, hmarks⟩ := of_mem_text_rooted (fun s hs => (hsegments s hs).1) hc
      have hbreaks : ∀ c ∈ ['\t', '\n', '\r'], c.toNat ≤ 0x20 := by simp
      have hsplit : c ∈ ['?', '#'] ++ ['\t', '\n', '\r'] := hmem
      rcases List.mem_append.1 hsplit with hmem | hmem
      · exact hmarks hmem
      · exact Nat.not_le_of_lt hvisible (hbreaks c hmem)
    rcases location_cases h.authority hpath fun s hs => (hsegments s hs).2 with
      ⟨-, hlocation⟩ | ⟨hroot, hlocation⟩
    · rw [hlocation]
      refine ⟨by simp [List.cons_prefix_cons], ?_⟩
      exact List.forall_mem_cons.2 ⟨by decide, List.forall_mem_cons.2 ⟨by decide, hchars⟩⟩
    · exact hlocation ▸ ⟨hroot, hchars⟩

/-! ## the whole -/

/-- A URL without an authority is read as one, with the query that it has. -/
theorem parse_text_of_isLocal (h : url.IsLocal) (hs : IsPlainScheme url.scheme) :
    ∃ read, parse url.text = .ok read ∧ read.authority = none ∧ read.query = url.query := by
  have hvisible : IsVisible (marked '?' url.query ++ marked '#' url.fragment) :=
    .append (isVisible_marked (by decide) (by decide) h.query)
      (isVisible_marked (by decide) (by decide) h.fragment)
  -- Only the end of the path can be trimmed, and only if nothing stands behind it.
  obtain ⟨t, ht, hclean⟩ : ∃ t, IsLocation t ∧
      unbroken (dropEndWhile (·.toNat ≤ 0x20)
        (url.location ++ (marked '?' url.query ++ marked '#' url.fragment))) =
        t ++ (marked '?' url.query ++ marked '#' url.fragment) := by
    by_cases hbehind : marked '?' url.query ++ marked '#' url.fragment = []
    · have ht := h.isLocation.of_prefix (prefix_dropEndWhile (·.toNat ≤ 0x20) url.location)
      refine ⟨_, ht, ?_⟩
      rw [hbehind, List.append_nil, List.append_nil, unbroken_of_isLocation ht]
    · refine ⟨url.location, h.isLocation, ?_⟩
      rw [hvisible.clean_end hbehind, unbroken_of_isLocation h.isLocation]
  obtain ⟨path, hpath⟩ : ∃ path, readPlain ⟨t, url.query, url.fragment⟩ = .ok (none, path) :=
    exists_readPlain_of_isLocation ht
  have htext : url.text =
      url.scheme ++ ':' :: (url.location ++ (marked '?' url.query ++ marked '#' url.fragment)) := by
    simp [Url.text]
  refine ⟨{ scheme := toLower url.scheme, path, query := url.query, fragment := url.fragment },
    ?_, rfl, rfl⟩
  have hsections :
      Sections.of (t ++ marked '?' url.query ++ marked '#' url.fragment) =
        ⟨t, url.query, url.fragment⟩ :=
    Sections.of_marked (fun hc => ht.chars _ hc (by decide)) (fun hc => ht.chars _ hc (by decide))
      fun q hq => (h.query q hq).notMem (by decide)
  rw [htext, parse_append hs, hclean, ← List.append_assoc, hsections]
  simp only [hpath, Except.map, map_escape_of_isEscaped h.query,
    map_escape_of_isEscaped h.fragment]

/-! ## what is read -/

/-- What stands before a mark does not have that mark in it. -/
theorem cutOff_fst (mark : Char) (s : List Char) :
    mark ∉ (cutOff mark s).1 ∧ (cutOff mark s).1 ⊆ s := by
  rw [cutOff]
  rcases cut?_cases mark s with ⟨hcut, hmark⟩ | ⟨a, b, hcut, rfl, hmark⟩
  · rw [hcut]
    exact ⟨hmark, List.Subset.refl s⟩
  · rw [hcut]
    exact ⟨hmark, List.subset_append_left a _⟩

/-- The body of a text has neither of the marks behind it. -/
theorem Sections.notMem_body (s : List Char) :
    '?' ∉ (Sections.of s).body ∧ '#' ∉ (Sections.of s).body := by
  have hbody : (Sections.of s).body = (cutOff '?' (cutOff '#' s).1).1 := rfl
  obtain ⟨hquery, hsubset⟩ := cutOff_fst '?' (cutOff '#' s).1
  rw [hbody]
  exact ⟨hquery, fun hmem => (cutOff_fst '#' s).1 (hsubset hmem)⟩

/-- The marks behind a path are escaped by nothing. -/
theorem notMem_escape_isControl (h : '?' ∉ s ∧ '#' ∉ s) :
    '?' ∉ escape isControl s ∧ '#' ∉ escape isControl s := by
  have hforeign : (∀ n < 16, '?' ≠ hexDigit n) ∧ ∀ n < 16, '#' ≠ hexDigit n := by decide
  exact ⟨fun hmem => h.1 (mem_of_mem_escape (by decide) hforeign.1 hmem),
    fun hmem => h.2 (mem_of_mem_escape (by decide) hforeign.2 hmem)⟩

/-- A text without a root and without marks is a location once it is escaped. -/
theorem isLocation_escape (hroot : ¬['/'] <+: s) (hmarks : '?' ∉ s ∧ '#' ∉ s) :
    IsLocation (escape isControl s) := by
  refine isLocation_of_isEscaped (isEscaped_escape (by decide) (by decide) s) (fun hp => ?_)
    (notMem_escape_isControl hmarks)
  have hslash : ['/'] <+: ['/', '/'] := by simp [List.cons_prefix_cons]
  exact hroot (prefix_of_escape (by decide) (hslash.trans hp))

/-- What is read of a text with a plain scheme, if it has no authority. -/
theorem isLocal_of_parse (hs : IsPlainScheme scheme) (h : parse (scheme ++ ':' :: s) = .ok url)
    (ha : url.authority = none) : url.IsLocal := by
  have hplain := isPlain_of_parse hs h
  refine ⟨ha, fun segments hpath => (hplain.path segments hpath).escaped, fun t hpath => ?_,
    hplain.query, hplain.fragment⟩
  rw [parse_append hs] at h
  obtain ⟨⟨authority, path⟩, hread, rfl⟩ := map_eq_ok h
  generalize unbroken (dropEndWhile (·.toNat ≤ 0x20) s) = u at hread
  have hmarks := Sections.notMem_body u
  rw [readPlain.eq_def] at hread
  split at hread
  · obtain ⟨⟨a, rest⟩, -, hread⟩ := bind_eq_ok hread
    cases hread
    contradiction
  · cases hread
    contradiction
  · rename_i hroot
    cases hread
    cases hpath
    refine isLocation_escape (fun hp => ?_) hmarks
    obtain ⟨v, hv⟩ := hp
    exact hroot v hv.symm

/-! ## other paths -/

/-- The path of a local URL has nothing in it that would end it. -/
theorem IsLocal.notMem_path (h : url.IsLocal) : '?' ∉ url.path.text ∧ '#' ∉ url.path.text := by
  cases hpath : url.path with
  | unrooted t =>
    have hchars := (h.unrooted t hpath).chars
    exact ⟨fun hc => hchars _ hc (by decide), fun hc => hchars _ hc (by decide)⟩
  | rooted segments =>
    have hmarks {c : Char} (hc : c ∈ (Path.rooted segments).text) : c ∉ ['?', '#'] :=
      (of_mem_text_rooted (fun s hs => (h.rooted segments hpath s hs).1) hc).2
    exact ⟨fun hc => hmarks hc (by decide), fun hc => hmarks hc (by decide)⟩

/-- With another path it is still a URL without an authority. -/
theorem IsLocal.withPath (h : url.IsLocal) (hmarks : '?' ∉ s ∧ '#' ∉ s) :
    (url.withPath s).IsLocal := by
  obtain ⟨segments, hroot, -, hresolved⟩ := Path.exists_root s
  have hrooted : ∀ front, (∀ segment ∈ front, IsEscaped inPathSet segment ∧ '/' ∉ segment) →
      IsLocal { url with path := .rooted (front ++ segments) } := by
    intro front hfront
    refine ⟨h.authority, fun all hall => ?_, fun t ht => by contradiction, h.query, h.fragment⟩
    cases hall
    exact List.forall_mem_append.2 ⟨hfront, hresolved.escaped⟩
  have hunrooted : IsLocal { url with path := .unrooted ("%2F".toList ++ escape isControl s) } := by
    refine ⟨h.authority, fun all hall => by contradiction, fun t ht => ?_, h.query, h.fragment⟩
    cases ht
    have hescaped : IsEscaped isControl (escape isControl s) :=
      isEscaped_escape (by decide) (by decide) s
    have hslash : IsEscaped isControl "%2F".toList := by simp [IsEscaped, isControl]
    obtain ⟨hquery, hfragment⟩ := notMem_escape_isControl hmarks
    exact isLocation_of_isEscaped (List.forall_mem_append.2 ⟨hslash, hescaped⟩)
      (by simp [List.cons_prefix_cons]) ⟨by simp [hquery], by simp [hfragment]⟩
  have hdot : IsEscaped inPathSet ['.'] ∧ '/' ∉ ['.'] :=
    ⟨List.forall_mem_singleton.2 (by decide), by decide⟩
  rw [Url.withPath]
  split
  · rename_i hsegments
    cases hroot.symm.trans hsegments
    exact hrooted [['.']] (List.forall_mem_singleton.2 hdot)
  · rw [hroot]
    exact hrooted [] (by simp)
  · exact hunrooted

end NarIndex.Url
