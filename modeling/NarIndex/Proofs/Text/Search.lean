import Mathlib.Data.List.Infix
import NarIndex.Text.Case
import NarIndex.Text.Split

/-!
# NarIndex.Proofs.Text.Search

Looking for a text inside another one.  What is found in a text is found in every text around it;
and a fixed text in front or behind adds nothing, if what is looked for can neither begin in the one
nor end in the other (`infix_append_left_iff`, `infix_append_right_iff`).  Of a text in lower case,
what becomes of the characters outside ASCII does not matter to a search for ASCII
(`Lowers.infix_iff`).
-/

namespace NarIndex.Text

variable {needle w s t : List Char}

/-- The search finds what stands in the text. -/
theorem occursIn_iff : occursIn needle s = true ↔ needle <:+: s := by
  induction s with
  | nil => simp [occursIn]
  | cons c s ih =>
    rw [occursIn, Bool.or_eq_true, ih, List.isPrefixOf_iff_prefix, List.infix_cons_iff]

/-! ## fixed texts around -/

/-- Whether no needle begins in a text, whatever stands behind it. -/
def BeginsNowhere (needle w : List Char) : Prop :=
  ∀ x ∈ w.tails, x ≠ [] → ¬needle <+: x ∧ ¬x <+: needle

/-- Whether no needle ends in a text, whatever stands before it. -/
def EndsNowhere (needle w : List Char) : Prop :=
  BeginsNowhere needle.reverse w.reverse

instance : Decidable (BeginsNowhere needle w) :=
  inferInstanceAs (Decidable (∀ x ∈ w.tails, x ≠ [] → ¬needle <+: x ∧ ¬x <+: needle))

instance : Decidable (EndsNowhere needle w) :=
  inferInstanceAs (Decidable (BeginsNowhere needle.reverse w.reverse))

/-- A needle that begins nowhere in a text does not begin in front of more either. -/
theorem BeginsNowhere.not_prefix_append (h : BeginsNowhere needle w) (hw : w ≠ []) :
    ¬needle <+: w ++ s := by
  intro hbegins
  obtain ⟨hlonger, hshorter⟩ := h w ((List.mem_tails w w).2 w.suffix_refl) hw
  exact (List.prefix_or_prefix_of_prefix hbegins (w.prefix_append s)).elim hlonger hshorter

/-- A text in front, in which no needle begins, adds nothing to a search. -/
theorem infix_append_left_iff (h : BeginsNowhere needle w) :
    needle <:+: w ++ s ↔ needle <:+: s := by
  induction w with
  | nil => rfl
  | cons c w ih =>
    have hw : BeginsNowhere needle w := fun x hx => h x (by simp_all)
    rw [List.cons_append, List.infix_cons_iff, ih hw]
    exact or_iff_right (h.not_prefix_append (List.cons_ne_nil c w))

/-- Nor does a text behind, in which none ends. -/
theorem infix_append_right_iff (h : EndsNowhere needle w) :
    needle <:+: s ++ w ↔ needle <:+: s := by
  rw [← List.reverse_infix, List.reverse_append, infix_append_left_iff h, List.reverse_infix]

/-! ## lower case -/

/-- Whether a character is in ASCII. -/
def InAscii (c : Char) : Prop :=
  c.toNat < 0x80

/-- Whether the lower case of a character has characters of ASCII in it. -/
def LowersIntoAscii (c : Char) : Prop :=
  InAscii c ∨ c = '\u212A' ∨ c = '\u0130'

instance (c : Char) : Decidable (InAscii c) :=
  inferInstanceAs (Decidable (c.toNat < 0x80))

instance (c : Char) : Decidable (LowersIntoAscii c) :=
  inferInstanceAs (Decidable (InAscii c ∨ c = '\u212A' ∨ c = '\u0130'))

/-- Whether one text is another one in lower case.  A character whose lower case has nothing of
ASCII in it may have any, also different ones at different places, as the Greek sigma has. -/
inductive Lowers : List Char → List Char → Prop
  | nil : Lowers [] []
  | folded {c : Char} {s t : List Char} (hc : LowersIntoAscii c) (hs : Lowers s t) :
      Lowers (c :: s) (foldChar c ++ t)
  | foreign {c : Char} {s t piece : List Char} (hc : ¬LowersIntoAscii c) (hpiece : piece ≠ [])
      (hforeign : ∀ d ∈ piece, ¬InAscii d) (hs : Lowers s t) : Lowers (c :: s) (piece ++ t)

/-- One character outside ASCII may stand for another one. -/
theorem Lowers.letter {c d : Char} (hc : ¬LowersIntoAscii c) (hd : ¬InAscii d) (h : Lowers s t) :
    Lowers (c :: s) (d :: t) :=
  .foreign hc (List.cons_ne_nil d []) (List.forall_mem_singleton.2 hd) h

/-- Only letters of ASCII have a lower case of their own here. -/
theorem toLower_of_not_inAscii {c : Char} (h : ¬InAscii c) : c.toLower = c := by
  refine dif_neg fun hupper => h ?_
  have hle : c.toNat ≤ 'Z'.toNat := hupper.2
  exact Nat.lt_of_le_of_lt hle (by decide)

/-- Folding is a lower case. -/
theorem lowers_foldCase (s : List Char) : Lowers s (foldCase s) := by
  induction s with
  | nil => exact .nil
  | cons c s ih =>
    change Lowers (c :: s) (foldChar c ++ foldCase s)
    by_cases hc : LowersIntoAscii c
    · exact .folded hc ih
    · obtain ⟨hascii, hkelvin, hdotted⟩ : ¬InAscii c ∧ c ≠ '\u212A' ∧ c ≠ '\u0130' := by
        simpa [LowersIntoAscii] using hc
      have hself : foldChar c = [c] := by
        rw [foldChar, if_neg hkelvin, if_neg hdotted, toLower_of_not_inAscii hascii]
      rw [hself]
      exact .letter hc hascii ih

/-- A text of ASCII does not begin in a text outside ASCII. -/
theorem beginsNowhere_foreign {piece : List Char} (hneedle : needle ≠ [])
    (hascii : ∀ c ∈ needle, InAscii c) (hforeign : ∀ c ∈ piece, ¬InAscii c) :
    BeginsNowhere needle piece := by
  intro x hx hne
  obtain ⟨c, needle, rfl⟩ := List.exists_cons_of_ne_nil hneedle
  obtain ⟨d, x, rfl⟩ := List.exists_cons_of_ne_nil hne
  have hd : d ∈ piece := ((List.mem_tails _ _).1 hx).subset List.mem_cons_self
  have hcd : c ≠ d := fun h => hforeign d hd (h ▸ hascii c List.mem_cons_self)
  simp [List.cons_prefix_cons, hcd, hcd.symm]

/-- Two texts that begin with the same ASCII do so behind any other text as well. -/
theorem prefix_append_congr {a : List Char}
    (h : ∀ needle, (∀ c ∈ needle, InAscii c) → (needle <+: s ↔ needle <+: t))
    (hascii : ∀ c ∈ needle, InAscii c) : needle <+: a ++ s ↔ needle <+: a ++ t := by
  induction a generalizing needle with
  | nil => exact h needle hascii
  | cons c a ih =>
    cases needle with
    | nil => simp
    | cons d needle => simp [List.cons_prefix_cons, ih (List.forall_mem_cons.1 hascii).2]

variable {t' : List Char}

/-- Two lower cases of a text begin with the same ASCII. -/
theorem Lowers.prefix_iff (h : Lowers s t) (h' : Lowers s t') (hascii : ∀ c ∈ needle, InAscii c) :
    needle <+: t ↔ needle <+: t' := by
  -- Both lower cases agree on a character, or no ASCII begins in either.
  induction h generalizing t' needle with
  | nil => cases h'; rfl
  | folded hc hs ih =>
    cases h' with
    | folded _ hs' => exact prefix_append_congr (fun _ hneedle => ih hs' hneedle) hascii
    | foreign hc' => contradiction
  | foreign hc hpiece hforeign hs ih =>
    cases h' with
    | folded hc' => contradiction
    | foreign _ hpiece' hforeign' hs' =>
      by_cases hneedle : needle = []
      · simp [hneedle]
      · exact iff_of_false
          ((beginsNowhere_foreign hneedle hascii hforeign).not_prefix_append hpiece)
          ((beginsNowhere_foreign hneedle hascii hforeign').not_prefix_append hpiece')

/-- Two texts with the same ASCII in them have the same in them behind any other text as well. -/
theorem infix_append_congr {a : List Char}
    (hbegins : ∀ needle, (∀ c ∈ needle, InAscii c) → (needle <+: s ↔ needle <+: t))
    (hascii : ∀ c ∈ needle, InAscii c) (h : needle <:+: s ↔ needle <:+: t) :
    needle <:+: a ++ s ↔ needle <:+: a ++ t := by
  induction a with
  | nil => exact h
  | cons c a ih =>
    simp only [List.cons_append, List.infix_cons_iff, ih]
    exact or_congr_left (prefix_append_congr (a := c :: a) hbegins hascii)

/-- In two lower cases of a text, the same ASCII is found. -/
theorem Lowers.infix_iff (h : Lowers s t) (h' : Lowers s t') (hneedle : needle ≠ [])
    (hascii : ∀ c ∈ needle, InAscii c) : needle <:+: t ↔ needle <:+: t' := by
  induction h generalizing t' with
  | nil => cases h'; rfl
  | folded hc hs ih =>
    cases h' with
    | folded _ hs' =>
      exact infix_append_congr (fun _ hneedle => hs.prefix_iff hs' hneedle) hascii (ih hs')
    | foreign hc' => contradiction
  | foreign hc hpiece hforeign hs ih =>
    cases h' with
    | folded hc' => contradiction
    | foreign _ hpiece' hforeign' hs' =>
      rw [infix_append_left_iff (beginsNowhere_foreign hneedle hascii hforeign),
        infix_append_left_iff (beginsNowhere_foreign hneedle hascii hforeign'), ih hs']

end NarIndex.Text
