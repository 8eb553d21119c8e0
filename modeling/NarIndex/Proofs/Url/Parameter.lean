import NarIndex.Proofs.Url.Form
import NarIndex.Proofs.Url.RoundTrip

/-!
# NarIndex.Proofs.Url.Parameter

A parameter in the query of a URL.  Whatever its value, the text around it is read the same, and it
is read at its place among the parameters around it (`parse_fill`).
-/

namespace NarIndex.Url

open NarIndex.Text

/-- A URL with a place for a parameter in its query: the text before the question mark, the one
between it and the place, and the one behind the place. -/
structure Slot where
  front : List Char
  before : List Char
  behind : List Char
  unmarked : '?' ∉ front ∧ '#' ∉ front
  opened : before = [] ∨ ∃ others, before = others ++ ['&'] ∧ '#' ∉ others
  closed : behind = [] ∨ ∃ mark others, behind = mark :: others ∧ mark ∈ ['&', '#']

/-- The URL with a parameter in the place. -/
def Slot.fill (slot : Slot) (pair : Form.Pair) : List Char :=
  slot.front ++ '?' :: (slot.before ++ (Form.writePair pair ++ slot.behind))

variable {slot : Slot} {scheme body s : List Char}

/-- The part of a URL in front of its query has the scheme in front. -/
theorem Slot.exists_front {rest : List Char} {pair : Form.Pair} (hs : '?' ∉ scheme)
    (h : slot.fill pair = scheme ++ ':' :: rest) : ∃ body, slot.front = scheme ++ ':' :: body := by
  rcases List.append_eq_append_iff.1 h with ⟨behind, hscheme, h⟩ | ⟨behind, hfront, h⟩
  · cases behind with
    | nil => exact absurd (List.cons.inj h).1 (by decide)
    | cons c behind =>
      obtain ⟨rfl, -⟩ := List.cons.inj h
      exact absurd (hscheme ▸ List.mem_append_right _ List.mem_cons_self) hs
  · cases behind with
    | nil => exact absurd (List.cons.inj h).1 (by decide)
    | cons c body =>
      obtain ⟨rfl, -⟩ := List.cons.inj h
      exact ⟨body, hfront⟩

/-- A parameter stands between the query before it and the query behind it. -/
theorem Slot.fill_eq (hfront : slot.front = scheme ++ ':' :: body) (pair : Form.Pair) :
    slot.fill pair =
      scheme ++ ':' :: (body ++ '?' :: (slot.before ++ (Form.writePair pair ++ slot.behind))) := by
  simp [Slot.fill, hfront]

/-! ## the query -/

theorem isVisible_writePair (pair : Form.Pair) : IsVisible (Form.writePair pair) :=
  (Form.isEscaped_write [pair]).isVisible (by decide)

/-- What is read of the query before the place of the parameter. -/
def Slot.queryBefore (slot : Slot) : List Char :=
  unbroken slot.before

/-- What is read of the query and of the fragment behind the place of the parameter. -/
def Slot.behindParameter (slot : Slot) : List Char × Option (List Char) :=
  cutOff '#' (unbroken (dropEndWhile (·.toNat ≤ 0x20) slot.behind))

/-- The query before a parameter is empty or ends where the parameter begins. -/
theorem Slot.queryBefore_cases (slot : Slot) :
    slot.queryBefore = [] ∨ ∃ others, slot.queryBefore = others ++ ['&'] ∧ '#' ∉ others := by
  rw [queryBefore]
  rcases slot.opened with h | ⟨others, h, hmark⟩
  · exact .inl (by rw [h]; rfl)
  · refine .inr ⟨unbroken others, ?_, fun hmem => hmark (List.mem_filter.1 hmem).1⟩
    rw [h, unbroken_append]
    rfl

theorem Slot.behindParameter_cases (slot : Slot) :
    slot.behindParameter.1 = [] ∨ ∃ others, slot.behindParameter.1 = '&' :: others := by
  rw [behindParameter]
  rcases slot.closed with h | ⟨mark, others, h, hmark⟩
  · exact .inl (by rw [h]; rfl)
  · have hmarks : ∀ c ∈ ['&', '#'], ¬c.toNat ≤ 0x20 ∧ c ∉ ['\t', '\n', '\r'] := by simp
    obtain ⟨hvisible, hbreak⟩ := hmarks mark hmark
    have hend : dropEndWhile (·.toNat ≤ 0x20) ([] ++ mark :: others) = _ :=
      dropEndWhile_append_cons (decide_eq_false hvisible)
    rw [List.nil_append, List.nil_append] at hend
    rw [h, hend, unbroken_cons hbreak]
    rcases List.mem_cons.1 hmark with rfl | hmark
    · exact .inr ⟨_, congrArg Prod.fst (cutOff_append (a := ['&']) (by decide))⟩
    · rw [List.mem_singleton.1 hmark]
      exact .inl rfl

/-- The query with a parameter in the place. -/
def Slot.query (slot : Slot) (pair : Form.Pair) : List Char :=
  escape inQuerySet slot.queryBefore ++
    (Form.writePair pair ++ escape inQuerySet slot.behindParameter.1)

/-- A mark between parameters is not escaped. -/
theorem escape_mark (s : List Char) : escape inQuerySet ('&' :: s) = '&' :: escape inQuerySet s :=
  rfl

/-- The parameter is read at its place. -/
theorem Slot.exists_read_query (slot : Slot) :
    ∃ front back, ∀ pair, Form.read (slot.query pair) = front ++ pair :: back := by
  refine ⟨_, _, fun pair => Form.read_between ?_ ?_ pair⟩
  · rcases slot.queryBefore_cases with h | ⟨others, h, -⟩
    · exact .inl (by rw [h]; rfl)
    · exact .inr ⟨escape inQuerySet others, by rw [h, escape_append]; rfl⟩
  · rcases slot.behindParameter_cases with h | ⟨others, h⟩
    · exact .inl (by rw [h]; rfl)
    · exact .inr ⟨escape inQuerySet others, by rw [h, escape_mark]⟩

/-! ## the whole -/

/-- The sections of a text with a parameter in it; none but the query depends on the parameter. -/
theorem sections_fill (hbody : '?' ∉ body ∧ '#' ∉ body) (slot : Slot) (pair : Form.Pair) :
    Sections.of (unbroken (dropEndWhile (·.toNat ≤ 0x20)
      (body ++ '?' :: (slot.before ++ (Form.writePair pair ++ slot.behind))))) =
      ⟨unbroken body,
        some (slot.queryBefore ++ (Form.writePair pair ++ slot.behindParameter.1)),
        slot.behindParameter.2⟩ := by
  let behind := unbroken (dropEndWhile (·.toNat ≤ 0x20) slot.behind)
  have hne : Form.writePair pair ≠ [] := by simp [Form.writePair]
  have hvisible := isVisible_writePair pair
  have hclean := hvisible.clean_append hne (body ++ '?' :: slot.before) slot.behind
  rw [List.append_assoc, List.cons_append, unbroken_append, unbroken_cons (by decide)] at hclean
  have hpair : '#' ∉ Form.writePair pair := (Form.isEscaped_write [pair]).notMem (by decide)
  have hfragment : '#' ∉ '?' :: (slot.queryBefore ++ Form.writePair pair) := by
    rcases slot.queryBefore_cases with h | ⟨others, h, hmark⟩
    · simp [h, hpair]
    · simp [h, hpair, hmark]
  have hcut : cutOff '#' ('?' :: (slot.queryBefore ++ (Form.writePair pair ++ behind))) =
      ('?' :: (slot.queryBefore ++ (Form.writePair pair ++ slot.behindParameter.1)),
        slot.behindParameter.2) := by
    have happend := cutOff_append (s := behind) hfragment
    simpa [Slot.behindParameter] using happend
  have hunmarked {c : Char} (hc : c ∉ body) : c ∉ unbroken body :=
    fun hmem => hc (List.mem_filter.1 hmem).1
  have hsections : Sections.of ('?' :: (slot.queryBefore ++ (Form.writePair pair ++ behind))) =
      ⟨[], some (slot.queryBefore ++ (Form.writePair pair ++ slot.behindParameter.1)),
        slot.behindParameter.2⟩ := by
    rw [Sections.of, hcut]
    rfl
  have happend : Sections.of (unbroken body ++
      ('?' :: (slot.queryBefore ++ (Form.writePair pair ++ behind)))) = _ :=
    Sections.of_append (hunmarked hbody.2) (hunmarked hbody.1)
  rw [hsections, List.append_nil] at happend
  rw [List.append_assoc, List.cons_append] at hclean
  rw [hclean]
  exact happend

/-- The path is read the same whatever the query is. -/
theorem readPlain_query {fragment : Option (List Char)} (query query' : List Char) :
    readPlain ⟨body, some query, fragment⟩ = readPlain ⟨body, some query', fragment⟩ :=
  rfl

/-- A text with a parameter in it is read, or is not, whatever the parameter is; of what is read,
only the query depends on it. -/
theorem parse_fill (hs : IsPlainScheme scheme) (hfront : slot.front = scheme ++ ':' :: body) :
    (∃ error, ∀ pair, parse (slot.fill pair) = .error error) ∨
      ∃ url : Url, ∀ pair,
        parse (slot.fill pair) = .ok { url with query := some (slot.query pair) } := by
  have hbody : '?' ∉ body ∧ '#' ∉ body := by
    obtain ⟨hquery, hfragment⟩ := slot.unmarked
    simp_all
  have hescape (pair : Form.Pair) :
      escape inQuerySet (slot.queryBefore ++ (Form.writePair pair ++ slot.behindParameter.1)) =
        slot.query pair := by
    have hpair : escape inQuerySet (Form.writePair pair) = Form.writePair pair :=
      (Form.isEscaped_write [pair]).escape
    rw [escape_append, escape_append, hpair]
    rfl
  have hparse (pair : Form.Pair) : parse (slot.fill pair) =
      (readPlain ⟨unbroken body, some [], slot.behindParameter.2⟩).map fun read =>
        { scheme := toLower scheme, authority := read.1, path := read.2
          query := some (slot.query pair)
          fragment := slot.behindParameter.2.map (escape inFragmentSet) } := by
    rw [slot.fill_eq hfront, parse_append hs, sections_fill hbody, ← hescape, readPlain_query [] _]
    rfl
  cases hread : readPlain ⟨unbroken body, some [], slot.behindParameter.2⟩ with
  | error error => exact .inl ⟨error, fun pair => by rw [hparse, hread]; rfl⟩
  | ok read =>
    let url : Url :=
      { scheme := toLower scheme, authority := read.1, path := read.2
        fragment := slot.behindParameter.2.map (escape inFragmentSet) }
    exact .inr ⟨url, fun pair => by rw [hparse, hread]; rfl⟩

end NarIndex.Url
