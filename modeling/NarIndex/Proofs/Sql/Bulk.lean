import Mathlib.Data.List.Pairwise
import NarIndex.Proofs.Sql.Template
import NarIndex.Sql.Binding

/-!
# NarIndex.Proofs.Sql.Bulk

The text of an insert of several rows.  Its rows are the only part that has parameters, and each of
them has one for each column, so that they are counted through from row to row
(`hasRows_text`).
-/

namespace NarIndex.Sql

variable {dialect : Dialect} {bulk : Bulk} {sep piece template s : List Char} {c : Char}

/-! ## characters that are left alone -/

/-- Whether a character is the same in every dialect, and cannot be taken for a parameter, a quote
or a part of a number. -/
def IsInert (c : Char) : Prop :=
  c.isDigit = false ∧ c ∉ ['?', '$', '"', '\x60']

instance : DecidablePred IsInert := fun c =>
  inferInstanceAs (Decidable (c.isDigit = false ∧ c ∉ ['?', '$', '"', '\x60']))

theorem IsInert.ne (h : IsInert c) : c ≠ '?' ∧ c ≠ '\x60' := by
  simp [IsInert] at h
  exact ⟨h.2.1, h.2.2.2.2⟩

/-- A text of such characters is rendered as it is. -/
theorem renderFrom_of_isInert (h : ∀ c ∈ s, IsInert c) (dialect : Dialect) (count : Nat) :
    renderFrom dialect count s = s := by
  induction s with
  | nil => rfl
  | cons c s ih =>
    obtain ⟨hc, hs⟩ := List.forall_mem_cons.1 h
    rw [renderFrom, if_neg hc.ne.1, if_neg hc.ne.2, ih hs]

theorem count_of_isInert (h : ∀ c ∈ s, IsInert c) : s.count '?' = 0 :=
  List.count_eq_zero.2 fun hmem => (h '?' hmem).ne.1 rfl

/-- Whether a text has nothing but such characters. -/
def IsInertText (text : String) : Prop :=
  ∀ c ∈ text.toList, IsInert c

-- by the characters of the text, and not by a search through all that there are
instance : DecidablePred IsInertText := fun text =>
  List.decidableBAll IsInert text.toList

theorem isInertText_comma : IsInertText ", " := by
  decide

theorem IsInertText.append {a b : String} (ha : IsInertText a) (hb : IsInertText b) :
    IsInertText (a ++ b) := by
  rw [IsInertText, String.toList_append]
  exact List.forall_mem_append.2 ⟨ha, hb⟩

theorem isInertText_intercalate {separator : String} {texts : List String}
    (hseparator : IsInertText separator) (h : ∀ text ∈ texts, IsInertText text) :
    IsInertText (separator.intercalate texts) := by
  induction texts with
  | nil => simp [IsInertText]
  | cons text texts ih =>
    obtain ⟨htext, htexts⟩ := List.forall_mem_cons.1 h
    cases texts with
    | nil => rwa [String.intercalate_singleton]
    | cons next texts =>
      rw [String.intercalate_cons_cons]
      exact (htext.append hseparator).append (ih htexts)

section
variable (h : ∀ c ∈ template, c = '?' ∨ IsInert c)
include h

/-- A template whose other characters are left alone can be read again. -/
theorem isUnambiguous_of_isInert : IsUnambiguous template where
  dollar hmem := by
    have := h '$' hmem
    revert this
    decide
  quote hmem := by
    have := h '"' hmem
    revert this
    decide
  apart := by
    refine (List.pairwise_of_forall_mem_list fun a _ b hb _ => ?_).isChain
    rcases h b hb with rfl | hinert
    · rfl
    · exact hinert.1

/-- Where parameters are not numbered, such a template is a text as it is. -/
theorem renderFrom_of_not_numbered (hdialect : dialect ≠ .postgres) (count : Nat) :
    renderFrom dialect count template = template := by
  have hquote : ∀ c ∈ template, (if c = '\x60' then '"' else c) = c := by
    intro c hmem
    rcases h c hmem with rfl | hinert
    · rfl
    · exact if_neg hinert.ne.2
  cases dialect with
  | postgres => contradiction
  | mysql => exact renderFrom_mysql count template
  | sqlite => rw [renderFrom_sqlite, List.map_congr_left hquote, List.map_id']

end

/-! ## texts that repeat -/

theorem intercalate_replicate_add_two (sep piece : List Char) (n : Nat) :
    sep.intercalate (List.replicate (n + 2) piece)
      = piece ++ (sep ++ sep.intercalate (List.replicate (n + 1) piece)) := by
  rw [List.replicate_succ, List.replicate_succ, List.intercalate_cons_cons, List.append_assoc]

theorem intercalate_range_add_two (sep : List Char) (f : Nat → List Char) (n : Nat) :
    sep.intercalate ((List.range (n + 2)).map f)
      = f 0 ++ (sep ++ sep.intercalate ((List.range (n + 1)).map fun k => f (k + 1))) := by
  rw [List.range_succ_eq_map, List.map_cons, List.map_map, List.range_succ_eq_map, List.map_cons,
    List.map_cons, List.intercalate_cons_cons, List.append_assoc]
  rfl

/-- Every character is one of the separator or of the part that repeats. -/
theorem mem_intercalate_replicate {n : Nat} (h : c ∈ sep.intercalate (List.replicate n piece)) :
    c ∈ sep ∨ c ∈ piece := by
  induction n with
  | zero => simp at h
  | succ n ih =>
    cases n with
    | zero => exact .inr (by simpa using h)
    | succ n =>
      rw [intercalate_replicate_add_two, List.mem_append, List.mem_append] at h
      rcases h with hpiece | hsep | hrest
      · exact .inr hpiece
      · exact .inl hsep
      · exact ih hrest

section
variable (hsep : ∀ c ∈ sep, IsInert c)
include hsep

/-- Parts that repeat have their parameters each. -/
theorem count_intercalate_replicate (n : Nat) :
    (sep.intercalate (List.replicate n piece)).count '?' = piece.count '?' * n := by
  induction n with
  | zero => simp
  | succ n ih =>
    cases n with
    | zero => simp
    | succ n =>
      rw [intercalate_replicate_add_two, List.count_append, List.count_append, ih,
        count_of_isInert hsep, Nat.mul_succ _ (n + 1)]
      omega

/-- Equal parts of a template are rendered alike, but for the numbers, which go on from part to
part. -/
theorem renderFrom_intercalate_replicate (dialect : Dialect) (count n : Nat) :
    renderFrom dialect count (sep.intercalate (List.replicate n piece))
      = sep.intercalate ((List.range n).map fun k =>
          renderFrom dialect (count + piece.count '?' * k) piece) := by
  induction n generalizing count with
  | zero => rfl
  | succ n ih =>
    cases n with
    | zero => simp
    | succ n =>
      have hshift (k : Nat) : count + piece.count '?' + piece.count '?' * k
          = count + piece.count '?' * (k + 1) := by
        rw [Nat.mul_succ]
        omega
      rw [intercalate_replicate_add_two, intercalate_range_add_two, renderFrom_append,
        renderFrom_append, renderFrom_of_isInert hsep, count_of_isInert hsep, ih]
      simp only [Nat.add_zero, Nat.mul_zero, hshift]

end

/-! ## rows -/

/-- The text of a row with parameters of the given numbers. -/
def rowText (dialect : Dialect) (numbers : List Nat) : String :=
  "(" ++ ", ".intercalate (numbers.map fun number => String.ofList (dialect.placeholder number))
    ++ ")"

/-- A row is question marks with commas between them, in parentheses. -/
theorem toList_row (bulk : Bulk) :
    bulk.row.toList
      = '(' :: (", ".toList.intercalate (List.replicate bulk.width ['?']) ++ [')']) := by
  have hopen : "(".toList = ['('] := by decide
  have hclose : ")".toList = [')'] := by decide
  have hmark : "?".toList = ['?'] := by decide
  rw [Bulk.row, String.toList_append, String.toList_append, String.toList_intercalate, List.map_map,
    hopen, hclose]
  simp [Function.comp_def, hmark, Bulk.width]

/-- A row has a parameter for each column. -/
theorem count_row (bulk : Bulk) : bulk.row.toList.count '?' = bulk.width := by
  rw [toList_row, List.count_cons_of_ne (by decide), List.count_append,
    count_intercalate_replicate isInertText_comma]
  simp

/-- Nothing but its parameters is changed in a row. -/
theorem of_mem_row (h : c ∈ bulk.row.toList) : c = '?' ∨ IsInert c := by
  rw [toList_row] at h
  rcases List.mem_cons.1 h with rfl | h
  · exact .inr (by decide)
  · rcases List.mem_append.1 h with h | h
    · rcases mem_intercalate_replicate h with h | h
      · exact .inr (isInertText_comma c h)
      · exact .inl (List.mem_singleton.1 h)
    · rw [List.mem_singleton.1 h]
      exact .inr (by decide)

/-- A row takes as many numbers as it has columns. -/
theorem renderFrom_row (bulk : Bulk) (dialect : Dialect) (count : Nat) :
    renderFrom dialect count bulk.row.toList
      = (rowText dialect (List.range' (count + 1) bulk.width)).toList := by
  have hopen : "(".toList = ['('] := by decide
  have hclose : ")".toList = [')'] := by decide
  have hend (count : Nat) : renderFrom dialect count [')'] = [')'] :=
    renderFrom_of_isInert (List.forall_mem_singleton.2 (by decide)) dialect count
  have hmark (k : Nat) : renderFrom dialect (count + ['?'].count '?' * k) ['?']
      = dialect.placeholder (count + 1 + k) := by
    rw [renderFrom, if_pos rfl, renderFrom, List.append_nil, List.count_singleton_self, Nat.one_mul,
      Nat.add_right_comm]
  rw [toList_row, renderFrom, if_neg (by decide), if_neg (by decide), renderFrom_append, hend,
    renderFrom_intercalate_replicate isInertText_comma, rowText, String.toList_append,
    String.toList_append, hopen, hclose, String.toList_intercalate, List.range'_eq_map_range]
  simp only [hmark, List.map_map, Function.comp_def, String.toList_ofList, List.cons_append,
    List.nil_append]

/-! ## inserts -/

/-- The parameters in a text, by their numbers.  Where they are not numbered, they are counted. -/
def parametersOf (dialect : Dialect) (text : List Char) : List Nat :=
  match dialect with
  | .postgres => parameterNumbers text
  | _ => List.range' 1 (text.count '?')

/-- A text that inserts some rows, with parameters in these alone, which are numbered from the first
one to the last; the rows have as many each as there are columns. -/
structure HasRows (dialect : Dialect) (bulk : Bulk) (rows : Nat) (text : String) : Prop where
  parameters : parametersOf dialect text.toList = List.range' 1 (bulk.width * rows)
  written : text = bulk.head
    ++ ", ".intercalate ((List.range rows).map fun k =>
        rowText dialect (List.range' (bulk.width * k + 1) bulk.width))
    ++ " " ++ dialect.onConflictIgnore bulk.target bulk.ignored

/-- Whether what stands around the rows is left alone. -/
structure Bulk.IsPlain (dialect : Dialect) (bulk : Bulk) : Prop where
  head : IsInertText bulk.head
  tail : IsInertText (dialect.onConflictIgnore bulk.target bulk.ignored)

/-- Names with nothing but inert characters make a plain insert. -/
theorem isPlain_into {table target ignored : String} {columns : List String}
    (h : ∀ name ∈ table :: target :: ignored :: columns, IsInertText name) (dialect : Dialect) :
    (Bulk.into table columns target ignored).IsPlain dialect := by
  obtain ⟨htable, h⟩ := List.forall_mem_cons.1 h
  obtain ⟨htarget, h⟩ := List.forall_mem_cons.1 h
  obtain ⟨hignored, hcolumns⟩ := List.forall_mem_cons.1 h
  have hlist := isInertText_intercalate isInertText_comma hcolumns
  constructor
  · have hinto : IsInertText "INSERT INTO " := by decide
    have hopen : IsInertText " (" := by decide
    have hvalues : IsInertText ") VALUES " := by decide
    exact (((hinto.append htable).append hopen).append hlist).append hvalues
  · cases dialect with
    | mysql =>
      have hupdate : IsInertText "ON DUPLICATE KEY UPDATE " := by decide
      have hequals : IsInertText " = " := by decide
      exact ((hupdate.append hignored).append hequals).append hignored
    | sqlite | postgres =>
      have hconflict : IsInertText "ON CONFLICT (" := by decide
      have hnothing : IsInertText ") DO NOTHING" := by decide
      exact (hconflict.append htarget).append hnothing

/-- A template is its head, the rows with commas between them, and its tail. -/
theorem toList_template (dialect : Dialect) (bulk : Bulk) (rows : Nat) :
    (bulk.template dialect rows).toList
      = bulk.head.toList ++ (", ".toList.intercalate (List.replicate rows bulk.row.toList)
          ++ (' ' :: (dialect.onConflictIgnore bulk.target bulk.ignored).toList)) := by
  have hblank : " ".toList = [' '] := by decide
  simp [Bulk.template, String.toList_append, hblank]

section
variable (h : bulk.IsPlain dialect)
include h

/-- Neither the tail nor the space before it has a parameter. -/
theorem Bulk.IsPlain.behind :
    ∀ c ∈ ' ' :: (dialect.onConflictIgnore bulk.target bulk.ignored).toList, IsInert c :=
  List.forall_mem_cons.2 ⟨by decide, h.tail⟩

/-- Nothing but its parameters is changed in a template. -/
theorem of_mem_template {rows : Nat} (hc : c ∈ (bulk.template dialect rows).toList) :
    c = '?' ∨ IsInert c := by
  rw [toList_template, List.mem_append, List.mem_append] at hc
  rcases hc with hhead | hrows | htail
  · exact .inr (h.head c hhead)
  · rcases mem_intercalate_replicate hrows with hcomma | hrow
    · exact .inr (isInertText_comma c hcomma)
    · exact of_mem_row hrow
  · exact .inr (h.behind c htail)

/-- The rows have all parameters of a template. -/
theorem count_template (rows : Nat) :
    (bulk.template dialect rows).toList.count '?' = bulk.width * rows := by
  rw [toList_template, List.count_append, List.count_append, count_of_isInert h.head,
    count_of_isInert h.behind, count_intercalate_replicate isInertText_comma, count_row,
    Nat.zero_add, Nat.add_zero]

/-- Every plain insert has the rows that it is asked for. -/
theorem hasRows_text (rows : Nat) : HasRows dialect bulk rows (bulk.text dialect rows) where
  parameters := by
    rw [Bulk.text, render, String.toList_ofList, ← count_template h rows]
    by_cases hdialect : dialect = .postgres
    · subst hdialect
      exact (numbered_renderFrom (isUnambiguous_of_isInert fun _ => of_mem_template h) 0).parameters
    · rw [renderFrom_of_not_numbered (fun _ => of_mem_template h) hdialect]
      cases dialect with
      | postgres => contradiction
      | sqlite => rfl
      | mysql => rfl
  written := by
    have hblank : " ".toList = [' '] := by decide
    rw [← String.toList_inj, Bulk.text, render, String.toList_ofList, toList_template,
      renderFrom_append, renderFrom_append, renderFrom_of_isInert h.head, count_of_isInert h.head,
      renderFrom_of_isInert h.behind, renderFrom_intercalate_replicate isInertText_comma]
    simp only [String.toList_append, String.toList_intercalate, List.map_map, Function.comp_def,
      renderFrom_row, count_row, Nat.zero_add, List.append_assoc, hblank, List.singleton_append]

end

example : Bulk.references.text .postgres 2
    = "INSERT INTO narinfo_references (narinfo_id, reference) VALUES ($1, $2), ($3, $4) "
      ++ "ON CONFLICT (narinfo_id, reference) DO NOTHING" := by
  decide +kernel

end NarIndex.Sql
