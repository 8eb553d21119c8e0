import NarIndex.Proofs.Url.Authority
import NarIndex.Proofs.Url.Path

/-!
# NarIndex.Proofs.Url.RoundTrip

A URL with an authority is read as it is written (`parse_text`), if its components are in the form
in which they are read; and what is read of a text with a plain scheme is in that form
(`isPlain_of_parse`).  So a connection string that is put together from the components of a URL that
has been read can be read again, and has these components.
-/

namespace NarIndex.Url

open NarIndex.Text

variable {scheme s : List Char} {query fragment : Option (List Char)} {c : Char}

/-! ## texts with nothing invisible in them -/

/-- Whether a text has neither controls nor blanks. -/
def IsVisible (s : List Char) : Prop :=
  ∀ c ∈ s, 0x20 < c.toNat

theorem IsVisible.append {t : List Char} (hs : IsVisible s) (ht : IsVisible t) :
    IsVisible (s ++ t) :=
  List.forall_mem_append.2 ⟨hs, ht⟩

/-- A visible text has no line ends and tabs to lose. -/
theorem IsVisible.unbroken (h : IsVisible s) : unbroken s = s := by
  have hbreaks : ∀ c ∈ ['\t', '\n', '\r'], c.toNat ≤ 0x20 := by simp
  exact unbroken_of_forall fun c hc hbreak => Nat.not_le_of_lt (h c hc) (hbreaks c hbreak)

/-- Nothing is cleaned from a visible text, and what stands before it is not trimmed. -/
theorem IsVisible.clean_append (h : IsVisible s) (hne : s ≠ []) (front back : List Char) :
    Url.unbroken (dropEndWhile (·.toNat ≤ 0x20) (front ++ (s ++ back))) =
      Url.unbroken front ++ (s ++ Url.unbroken (dropEndWhile (·.toNat ≤ 0x20) back)) := by
  obtain ⟨rest, c, hs⟩ := List.eq_nil_or_concat s |>.resolve_left hne
  have hc : 0x20 < c.toNat := h c (by simp [hs])
  have hend : dropEndWhile (·.toNat ≤ 0x20) ((front ++ rest) ++ c :: back) = _ :=
    dropEndWhile_append_cons (decide_eq_false (Nat.not_le_of_lt hc))
  have hsplit (t : List Char) : front ++ (s ++ t) = (front ++ rest) ++ c :: t := by simp [hs]
  rw [hsplit, hend, ← hsplit, unbroken_append, unbroken_append, h.unbroken]

/-- A visible end of a text is not trimmed. -/
theorem IsVisible.clean_end (h : IsVisible s) (hne : s ≠ []) (front : List Char) :
    Url.unbroken (dropEndWhile (·.toNat ≤ 0x20) (front ++ s)) = Url.unbroken front ++ s := by
  have hclean := h.clean_append hne front []
  have hnil : Url.unbroken (dropEndWhile (·.toNat ≤ 0x20) []) = [] := rfl
  rwa [hnil, List.append_nil] at hclean

theorem IsVisible.clean (h : IsVisible s) :
    Url.unbroken (dropEndWhile (·.toNat ≤ 0x20) s) = s := by
  by_cases hne : s = []
  · rw [hne]
    rfl
  · exact h.clean_end hne []

/-- A text that is escaped is visible. -/
theorem IsEscaped.isVisible {set : Char → Bool} (h : IsEscaped set s)
    (hset : ∀ n ≤ 0x20, set (Char.ofNat n) = true) : IsVisible s := by
  refine fun c hc => Nat.lt_of_not_le fun hlow => ?_
  have hin : set c = true := by simpa [Char.ofNat_toNat] using hset c.toNat hlow
  exact h.notMem hin hc

/-- A component that is escaped is read as it is. -/
theorem map_escape_of_isEscaped {set : Char → Bool} {component : Option (List Char)}
    (h : ∀ t ∈ component, IsEscaped set t) : component.map (escape set) = component := by
  cases component with
  | none => rfl
  | some t => exact congrArg some (h t rfl).escape

/-! ## the sections of a text -/

/-- A component is cut off with its mark. -/
theorem cutOff_marked {mark : Char} (component : Option (List Char)) (h : mark ∉ s) :
    cutOff mark (s ++ marked mark component) = (s, component) := by
  rw [cutOff_append h]
  cases component <;> simp [marked, cutOff, cut?]

/-- A component has another mark in it only if it had before. -/
theorem notMem_marked {mark : Char} (hmark : c ≠ mark) (h : ∀ q ∈ query, c ∉ q) :
    c ∉ marked mark query := by
  cases query with
  | none => exact List.not_mem_nil
  | some q => simp [marked, hmark, h q rfl]

/-- A text is cut at the marks before its query and its fragment. -/
theorem Sections.of_marked (hfragment : '#' ∉ s) (hquery : '?' ∉ s) (h : ∀ q ∈ query, '#' ∉ q) :
    Sections.of (s ++ marked '?' query ++ marked '#' fragment) = ⟨s, query, fragment⟩ := by
  have hfront : '#' ∉ s ++ marked '?' query :=
    fun hmem => (List.mem_append.1 hmem).elim hfragment (notMem_marked (by decide) h)
  rw [Sections.of, cutOff_marked fragment hfront]
  simp only [cutOff_marked query hquery]

/-! ## authority and path -/

/-- An authority ends where the path begins. -/
theorem readPlain_append {front back : List Char} (hfront : '/' ∉ front)
    (hback : ∀ c ∈ back.head?, c = '/') :
    readPlain ⟨'/' :: '/' :: (front ++ back), query, fragment⟩ =
      (readAuthority false (!back.isEmpty || (query.isSome || fragment.isSome)) front).map
        fun (authority, rest) => (some authority, pathBehind (rest ++ back)) := by
  have hsplit : beforeSlash back = ([], back) := by
    cases back with
    | nil => rfl
    | cons c back => simp [beforeSlash, hback c rfl]
  simp only [readPlain, beforeSlash_append hfront, hsplit, List.append_nil, Sections.continues]
  cases readAuthority false (!back.isEmpty || (query.isSome || fragment.isSome)) front <;> rfl

/-- Authority and path are read as they are written, the path with its dot segments resolved. -/
theorem readPlain_text {a : Authority} {segments : List (List Char)} (ha : a.IsPlain)
    (h : ∀ segment ∈ segments, IsEscaped inPathSet segment ∧ '/' ∉ segment) :
    readPlain ⟨'/' :: '/' :: (a.text ++ (Path.rooted segments).text), query, fragment⟩ =
      .ok (some a, .rooted (Path.resolve segments)) := by
  have hslash : '/' ∉ a.text := fun hc => (Authority.of_mem_text ha hc).2 (by decide)
  have hroot : ∀ c ∈ (Path.rooted segments).text.head?, c = '/' := by
    cases segments <;> simp [Path.text]
  rw [readPlain_append hslash hroot, readAuthority_text _ ha]
  exact congrArg (fun path => Except.ok (some a, path)) (Path.pathBehind_text h)

/-! ## the whole -/

/-- Whether the components of a URL are in the form in which they are read behind a plain scheme. -/
structure IsPlain (url : Url) : Prop where
  authority : ∀ a ∈ url.authority, a.IsPlain
  path : ∀ segments, url.path = .rooted segments → Path.IsResolved segments
  rooted : url.authority.isSome → ∃ segments, url.path = .rooted segments
  query : ∀ q ∈ url.query, IsEscaped inQuerySet q
  fragment : ∀ f ∈ url.fragment, IsEscaped inFragmentSet f

variable {url : Url}

/-- An escaped component is visible, with its mark. -/
theorem isVisible_marked {mark : Char} {set : Char → Bool} {component : Option (List Char)}
    (hmark : 0x20 < mark.toNat) (hset : ∀ n ≤ 0x20, set (Char.ofNat n) = true)
    (h : ∀ t ∈ component, IsEscaped set t) : IsVisible (marked mark component) := by
  cases component with
  | none => exact fun _ hc => absurd hc List.not_mem_nil
  | some t => exact List.forall_mem_cons.2 ⟨hmark, (h t rfl).isVisible hset⟩

/-- Nothing in an escaped path ends it. -/
theorem of_mem_text_rooted {segments : List (List Char)}
    (h : ∀ segment ∈ segments, IsEscaped inPathSet segment)
    (hc : c ∈ (Path.rooted segments).text) : 0x20 < c.toNat ∧ c ∉ ['?', '#'] := by
  have hpath := forall_ascii (P := fun c => inPathSet c = false →
    0x20 < c.toNat ∧ c ∉ ['?', '#']) (by decide +kernel)
  obtain ⟨segment, hsegment, hc⟩ := List.mem_flatMap.1 hc
  rcases List.mem_cons.1 hc with rfl | hc
  · decide
  · obtain ⟨hascii, hset⟩ := h segment hsegment c hc
    exact hpath c hascii hset

/-- The text of an authority, a path and what stands behind it is read as it is written, the path
with its dot segments resolved. -/
theorem parse_components {a : Authority} {segments : List (List Char)} (hs : IsPlainScheme scheme)
    (ha : a.IsPlain) (h : ∀ segment ∈ segments, IsEscaped inPathSet segment ∧ '/' ∉ segment)
    (hquery : ∀ q ∈ query, IsEscaped inQuerySet q)
    (hfragment : ∀ f ∈ fragment, IsEscaped inFragmentSet f) :
    parse (scheme ++ ':' :: ('/' :: '/' :: (a.text ++ (Path.rooted segments).text)
      ++ marked '?' query ++ marked '#' fragment)) =
      .ok { scheme := toLower scheme, authority := some a
            path := .rooted (Path.resolve segments), query, fragment } := by
  have hbody : ∀ c ∈ '/' :: '/' :: (a.text ++ (Path.rooted segments).text),
      0x20 < c.toNat ∧ c ∉ ['?', '#'] := by
    refine List.forall_mem_cons.2 ⟨by decide, List.forall_mem_cons.2 ⟨by decide, ?_⟩⟩
    refine List.forall_mem_append.2 ⟨fun c hc => ?_, fun c =>
      of_mem_text_rooted fun segment hsegment => (h segment hsegment).1⟩
    obtain ⟨hvisible, hmarks⟩ := Authority.of_mem_text ha hc
    exact ⟨hvisible, fun hmem => hmarks (List.mem_cons_of_mem '/' hmem)⟩
  have hvisible : IsVisible ('/' :: '/' :: (a.text ++ (Path.rooted segments).text)
      ++ marked '?' query ++ marked '#' fragment) :=
    .append (.append (fun c hc => (hbody c hc).1) (isVisible_marked (by decide) (by decide) hquery))
      (isVisible_marked (by decide) (by decide) hfragment)
  rw [parse_append hs, hvisible.clean,
    Sections.of_marked (fun hc => (hbody _ hc).2 (by decide)) (fun hc => (hbody _ hc).2 (by decide))
      (fun q hq => (hquery q hq).notMem (by decide))]
  simp only [readPlain_text ha h, Except.map, map_escape_of_isEscaped hquery,
    map_escape_of_isEscaped hfragment]

/-- A URL with an authority is read as it is written. -/
theorem parse_text {a : Authority} (h : url.IsPlain) (ha : url.authority = some a)
    (hs : IsPlainScheme url.scheme) (hlower : toLower url.scheme = url.scheme) :
    parse url.text = .ok url := by
  obtain ⟨segments, hrooted⟩ := h.rooted (by simp [ha])
  have hresolved : Path.IsResolved segments := h.path segments hrooted
  have htext : url.text =
      url.scheme ++ ':' :: ('/' :: '/' :: (a.text ++ (Path.rooted segments).text)
        ++ marked '?' url.query ++ marked '#' url.fragment) := by
    simp [Url.text, location, ha, hrooted]
  rw [htext, parse_components hs (h.authority a ha) hresolved.escaped h.query h.fragment, hlower,
    Path.resolve_of_isResolved hresolved, ← ha, ← hrooted]

/-! ## what is read -/

/-- Authority and path as they are read. -/
theorem of_readPlain {sections : Sections} {authority : Option Authority} {path : Path}
    (h : readPlain sections = .ok (authority, path)) :
    (∀ a ∈ authority, a.IsPlain) ∧
      (∀ segments, path = .rooted segments → Path.IsResolved segments) ∧
      (authority.isSome → ∃ segments, path = .rooted segments) := by
  rw [readPlain.eq_def] at h
  split at h
  · obtain ⟨⟨a, rest⟩, hread, h⟩ := bind_eq_ok h
    cases h
    obtain ⟨segments, hpath, hresolved⟩ := Path.exists_pathBehind _
    refine ⟨fun b hb => ?_, fun segments' hsegments => ?_, fun _ => ⟨segments, hpath⟩⟩
    · cases Option.mem_some_iff.1 hb
      exact isPlain_of_readAuthority hread
    · cases hpath.symm.trans hsegments
      exact hresolved
  · cases h
    obtain ⟨segments, hpath, -, hresolved⟩ := Path.exists_root _
    refine ⟨by simp, fun segments' hsegments => ?_, by simp⟩
    cases hpath.symm.trans hsegments
    exact hresolved
  · cases h
    exact ⟨by simp, fun segments hsegments => by simp [Path.free] at hsegments, by simp⟩

/-- A component that was read is escaped. -/
theorem isEscaped_of_mem_map {set : Char → Bool} {component : Option (List Char)} {t : List Char}
    (hpercent : set '%' = false) (hdigit : ∀ n < 16, set (hexDigit n) = false)
    (h : t ∈ component.map (escape set)) : IsEscaped set t := by
  obtain ⟨u, -, rfl⟩ := Option.map_eq_some_iff.1 h
  exact isEscaped_escape hpercent hdigit u

/-- What is read of a text with a plain scheme. -/
theorem isPlain_of_parse (hs : IsPlainScheme scheme) (h : parse (scheme ++ ':' :: s) = .ok url) :
    url.IsPlain := by
  rw [parse_append hs] at h
  obtain ⟨⟨authority, path⟩, hread, rfl⟩ := map_eq_ok h
  obtain ⟨hauthority, hpath, hrooted⟩ := of_readPlain hread
  exact ⟨hauthority, hpath, hrooted, fun q => isEscaped_of_mem_map (by decide) (by decide),
    fun f => isEscaped_of_mem_map (by decide) (by decide)⟩

/-- A plain scheme is read in lower case. -/
theorem scheme_of_parse (hs : IsPlainScheme scheme) (h : parse (scheme ++ ':' :: s) = .ok url) :
    url.scheme = toLower scheme := by
  rw [parse_append hs] at h
  obtain ⟨⟨authority, path⟩, -, rfl⟩ := map_eq_ok h
  rfl

/-- Behind a scheme and two slashes stands an authority. -/
theorem exists_authority_of_parse (hs : IsPlainScheme scheme)
    (h : parse (scheme ++ ':' :: '/' :: '/' :: s) = .ok url) : ∃ a, url.authority = some a := by
  rw [parse_append hs] at h
  obtain ⟨⟨authority, path⟩, hread, rfl⟩ := map_eq_ok h
  have hclean : unbroken (dropEndWhile (·.toNat ≤ 0x20) ('/' :: '/' :: s)) =
      ['/', '/'] ++ unbroken (dropEndWhile (·.toNat ≤ 0x20) s) := by
    have hend : dropEndWhile (·.toNat ≤ 0x20) (['/'] ++ '/' :: s) = _ :=
      dropEndWhile_append_cons (by decide)
    rw [List.singleton_append] at hend
    rw [hend]
    simp [unbroken_cons]
  rw [hclean, Sections.of_append (by decide) (by decide)] at hread
  obtain ⟨⟨a, rest⟩, -, h⟩ := bind_eq_ok hread
  cases h
  exact ⟨a, rfl⟩

end NarIndex.Url
