import Mathlib.Data.List.Chain
import NarIndex.Sql.Template
import NarIndex.Text.Digits

/-!
# NarIndex.Proofs.Sql.Template

Rendering a template loses nothing of it.  Two dialects keep the question marks
(`renderFrom_mysql`, `renderFrom_sqlite`).  The third numbers them; parts of a template are rendered
one after the other, each with the count that the parts before it have come to
(`renderFrom_append`).  A number is read again by taking as many digits as follow the dollar
(`tokens_placeholder`), and so the numbers are found in order and the template comes back
(`numbered_renderFrom`).
-/

namespace NarIndex.Sql

open NarIndex.Text

/-! ## reading numbered parameters -/

/-- What a text with numbered parameters is made of. -/
inductive Token where
  | parameter (number : Nat)
  | char (c : Char)
  deriving DecidableEq, Repr

namespace Token

/-- The number of a parameter. -/
def number? : Token → Option Nat
  | parameter number => some number
  | char _ => none

/-- The character of a template that is written so. -/
def origin : Token → Char
  | parameter _ => '?'
  | char c => if c = '"' then '\x60' else c

end Token

/-- Reads a text.  A parameter is a dollar with a number behind it, which is as long as there are
digits. -/
def tokens : List Char → List Token
  | [] => []
  | c :: text =>
    let digits := text.takeWhile Char.isDigit
    if c = '$' ∧ digits ≠ [] then
      .parameter (decimal digits) :: tokens (text.dropWhile Char.isDigit)
    else .char c :: tokens text
termination_by text => text.length
decreasing_by
  · exact Nat.lt_succ_of_le (List.dropWhile_suffix Char.isDigit).length_le
  · exact Nat.lt_succ_self _

/-- The numbers of the parameters in a text, from left to right. -/
def parameterNumbers (text : List Char) : List Nat :=
  (tokens text).filterMap Token.number?

/-- A text with question marks for its parameters, and backticks for its double quotes. -/
def unnumbered (text : List Char) : List Char :=
  (tokens text).map Token.origin

/-- A text in which the parameters of a template are numbered from `first` on, and of which the
template is the text without the numbers. -/
structure Numbered (first : Nat) (template text : List Char) : Prop where
  parameters : parameterNumbers text = List.range' first (template.count '?')
  template : unnumbered text = template

/-- A template in which nothing looks like the text of a numbered parameter or of a quoted name, and
no parameter has a digit right behind it. -/
structure IsUnambiguous (template : List Char) : Prop where
  dollar : '$' ∉ template
  quote : '"' ∉ template
  apart : template.IsChain fun c next => c = '?' → next.isDigit = false

variable {c : Char} {template text : List Char}

/-- Only a dollar begins a parameter. -/
theorem tokens_cons_of_ne (h : c ≠ '$') (text : List Char) :
    tokens (c :: text) = .char c :: tokens text := by
  rw [tokens]
  exact if_neg fun hc => h hc.1

/-- A parameter is read as it is written, whatever follows but a digit. -/
theorem tokens_placeholder (number : Nat) (h : ∀ c ∈ text.head?, c.isDigit = false) :
    tokens (Dialect.postgres.placeholder number ++ text) = .parameter number :: tokens text := by
  have hdigits : ∀ c ∈ Nat.toDigits 10 number, c.isDigit := fun _ =>
    Nat.isDigit_of_mem_toDigits (by decide) (by decide)
  have hstop : text.takeWhile Char.isDigit = [] ∧ text.dropWhile Char.isDigit = text := by
    cases text with
    | nil => exact ⟨rfl, rfl⟩
    | cons c text => simp [h c rfl]
  have htake : (Nat.toDigits 10 number ++ text).takeWhile Char.isDigit
      = Nat.toDigits 10 number := by
    rw [List.takeWhile_append_of_pos hdigits, hstop.1, List.append_nil]
  have hdrop : (Nat.toDigits 10 number ++ text).dropWhile Char.isDigit = text := by
    rw [List.dropWhile_append_of_pos hdigits, hstop.2]
  rw [Dialect.placeholder, List.cons_append, tokens, htake, hdrop, decimal_toDigits]
  exact if_pos ⟨rfl, Nat.toDigits_ne_nil⟩

/-! ## rendering in parts -/

/-- What stands behind a part of a template is rendered with the count carried on. -/
theorem renderFrom_append (dialect : Dialect) (count : Nat) (a b : List Char) :
    renderFrom dialect count (a ++ b)
      = renderFrom dialect count a ++ renderFrom dialect (count + a.count '?') b := by
  induction a generalizing count with
  | nil => rfl
  | cons c a ih =>
    rw [List.cons_append, renderFrom, renderFrom]
    by_cases hmark : c = '?'
    · rw [if_pos hmark, if_pos hmark, ih, List.append_assoc, hmark, List.count_cons_self]
      congr 3
      omega
    · rw [if_neg hmark, if_neg hmark, List.count_cons_of_ne hmark, ih]
      split <;> rfl

/-- MySQL has the templates as they are. -/
theorem renderFrom_mysql (count : Nat) (template : List Char) :
    renderFrom .mysql count template = template := by
  induction template generalizing count with
  | nil => rfl
  | cons c template ih =>
    rw [renderFrom, ih, ih]
    split
    · simp_all [Dialect.placeholder]
    · split <;> simp_all [Dialect.quote]

/-- SQLite has them with double quotes for backticks. -/
theorem renderFrom_sqlite (count : Nat) (template : List Char) :
    renderFrom .sqlite count template = template.map fun c => if c = '\x60' then '"' else c := by
  induction template generalizing count with
  | nil => rfl
  | cons c template ih =>
    rw [renderFrom, ih, ih, List.map_cons]
    split
    · simp_all [Dialect.placeholder]
    · split <;> simp_all [Dialect.quote]

/-! ## rendering with numbers -/

/-- A text that is rendered begins with a digit only where the template does. -/
theorem isDigit_head_renderFrom (count : Nat)
    (h : ∀ c ∈ template.head?, c.isDigit = false) :
    ∀ c ∈ (renderFrom .postgres count template).head?, c.isDigit = false := by
  cases template with
  | nil => exact h
  | cons c template =>
    rw [renderFrom]
    split
    · simp [Dialect.placeholder]
    · split
      · simp [Dialect.quote]
      · exact h

section
variable (h : IsUnambiguous (c :: template))
include h

theorem IsUnambiguous.ne : c ≠ '$' ∧ c ≠ '"' :=
  ⟨fun hc => h.dollar (hc ▸ List.mem_cons_self), fun hc => h.quote (hc ▸ List.mem_cons_self)⟩

theorem IsUnambiguous.tail : IsUnambiguous template :=
  ⟨fun hc => h.dollar (List.mem_cons_of_mem c hc), fun hc => h.quote (List.mem_cons_of_mem c hc),
    h.apart.tail⟩

end

/-- Behind a parameter no digit follows. -/
theorem IsUnambiguous.isDigit_head (h : IsUnambiguous ('?' :: template)) :
    ∀ c ∈ template.head?, c.isDigit = false :=
  fun c hc => (List.isChain_cons.1 h.apart).1 c hc rfl

theorem numbered_nil (first : Nat) : Numbered first [] [] where
  parameters := by simp [parameterNumbers, tokens]
  template := by simp [unnumbered, tokens]

/-- A parameter takes the number before those of the parameters behind it. -/
theorem Numbered.parameter {number : Nat} (h : Numbered (number + 1) template text)
    (hhead : ∀ c ∈ text.head?, c.isDigit = false) :
    Numbered number ('?' :: template) (Dialect.postgres.placeholder number ++ text) where
  parameters := by
    rw [parameterNumbers, tokens_placeholder number hhead, List.count_cons_self, List.range'_succ,
      ← h.parameters]
    rfl
  template := by
    rw [unnumbered, tokens_placeholder number hhead, List.map_cons, ← unnumbered, h.template]
    rfl

/-- Any other character leaves the numbers alone. -/
theorem Numbered.char {first : Nat} {d : Char} (h : Numbered first template text) (hmark : c ≠ '?')
    (hdollar : d ≠ '$') (horigin : (Token.char d).origin = c) :
    Numbered first (c :: template) (d :: text) where
  parameters := by
    rw [parameterNumbers, tokens_cons_of_ne hdollar, List.count_cons_of_ne hmark, ← h.parameters]
    rfl
  template := by
    rw [unnumbered, tokens_cons_of_ne hdollar, List.map_cons, ← unnumbered, h.template, horigin]

/-- The parameters of a rendered template are numbered in order, and the template is what is left
without the numbers. -/
theorem numbered_renderFrom (h : IsUnambiguous template) (count : Nat) :
    Numbered (count + 1) template (renderFrom .postgres count template) := by
  induction template generalizing count with
  | nil => exact numbered_nil (count + 1)
  | cons c template ih =>
    obtain ⟨hdollar, hquote⟩ := h.ne
    rw [renderFrom]
    by_cases hmark : c = '?'
    · subst hmark
      rw [if_pos rfl]
      exact (ih h.tail (count + 1)).parameter (isDigit_head_renderFrom (count + 1) h.isDigit_head)
    · rw [if_neg hmark]
      by_cases htick : c = '\x60'
      · rw [if_pos htick]
        exact (ih h.tail count).char hmark (by decide) htick.symm
      · rw [if_neg htick]
        exact (ih h.tail count).char hmark hdollar (if_neg hquote)

/-- Rendering numbers the parameters in order and loses nothing.  One dialect keeps a template as it
is, and one all of it but the backticks; in the third, of two parts the second is numbered on from
where the first has come to.  What is numbered there is read again, number for number, and leads
back to the template, if nothing in that looks like a number or a quoted name. -/
theorem parameters_in_order :
    (∀ template, render .mysql template = template) ∧
    (∀ template, (render .sqlite template).toList =
      template.toList.map fun c => if c = '\x60' then '"' else c) ∧
    (∀ a b : String, render .postgres (a ++ b) =
      render .postgres a ++ String.ofList (renderFrom .postgres (a.toList.count '?') b.toList)) ∧
    ∀ template : String, IsUnambiguous template.toList →
      Numbered 1 template.toList (render .postgres template).toList ∧
      ∀ count, Numbered (count + 1) template.toList
        (renderFrom .postgres count template.toList) := by
  refine ⟨fun template => ?_, fun template => ?_, fun a b => ?_, fun template h => ⟨?_, ?_⟩⟩
  · rw [render, renderFrom_mysql, String.ofList_toList]
  · rw [render, renderFrom_sqlite, String.toList_ofList]
  · rw [render, render, String.toList_append, renderFrom_append, String.ofList_append, Nat.zero_add]
  · rw [render, String.toList_ofList]
    exact numbered_renderFrom h 0
  · exact numbered_renderFrom h

/-- Eleven parameters, the last two with numbers of two digits, before a reserved name. -/
theorem parameters_in_order_eleven :
    IsUnambiguous "VALUES (?, ?, ?, ?, ?, ?, ?, ?, ?, ?, ?) WHERE `key` = ?".toList ∧
      Numbered 1 "VALUES (?, ?, ?, ?, ?, ?, ?, ?, ?, ?, ?) WHERE `key` = ?".toList
        (render .postgres "VALUES (?, ?, ?, ?, ?, ?, ?, ?, ?, ?, ?) WHERE `key` = ?").toList := by
  have h : IsUnambiguous "VALUES (?, ?, ?, ?, ?, ?, ?, ?, ?, ?, ?) WHERE `key` = ?".toList :=
    ⟨by decide, by decide, by decide⟩
  exact ⟨h, (parameters_in_order.2.2.2 _ h).1⟩

end NarIndex.Sql
