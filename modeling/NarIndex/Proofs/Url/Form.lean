import NarIndex.Proofs.Text.Split
import NarIndex.Proofs.Text.Utf8
import NarIndex.Proofs.Url.Percent
import NarIndex.Url.Form

/-!
# NarIndex.Proofs.Url.Form

Pairs are read as they were written (`read_write`), whatever characters their names and values are
made of.  What is written has nothing in it that a query escapes, so that it stays as it is in a
URL (`isEscaped_write`).
-/

namespace NarIndex.Url.Form

open NarIndex.Text

variable {s : List Char} {c : Char}

/-! ## the characters of what is written -/

/-- Bytes are written with characters that a query leaves alone, and with neither of the marks
between names and values. -/
theorem of_mem_writeByte {b : UInt8} (h : c ∈ writeByte b) :
    c.toNat < 0x80 ∧ inQuerySet c = false ∧ c ≠ '&' ∧ c ≠ '=' := by
  have hbytes := forall_byte (P := fun b => (writeByte b).all fun c =>
    c.toNat < 0x80 ∧ inQuerySet c = false ∧ c ≠ '&' ∧ c ≠ '=') (by decide +kernel)
  exact of_decide_eq_true (List.all_eq_true.1 (hbytes b) c h)

/-- A name or a value is written without anything that separates pairs. -/
theorem of_mem_writeText (h : c ∈ writeText s) :
    c.toNat < 0x80 ∧ inQuerySet c = false ∧ c ≠ '&' ∧ c ≠ '=' := by
  obtain ⟨b, -, hb⟩ := List.mem_flatMap.1 h
  exact of_mem_writeByte hb

theorem at_notMem_writeText (s : List Char) : '@' ∉ writeText s := by
  intro h
  obtain ⟨b, -, hb⟩ := List.mem_flatMap.1 h
  exact forall_byte (P := fun b => '@' ∉ writeByte b) (by decide +kernel) b hb

/-- A pair is written without anything that separates it from others. -/
theorem of_mem_writePair {pair : Pair} (h : c ∈ writePair pair) :
    (c.toNat < 0x80 ∧ inQuerySet c = false) ∧ c ≠ '&' := by
  simp only [writePair, List.mem_append, List.mem_cons] at h
  rcases h with h | rfl | h
  · exact ⟨⟨(of_mem_writeText h).1, (of_mem_writeText h).2.1⟩, (of_mem_writeText h).2.2.1⟩
  · decide
  · exact ⟨⟨(of_mem_writeText h).1, (of_mem_writeText h).2.1⟩, (of_mem_writeText h).2.2.1⟩

theorem isEscaped_write (pairs : List Pair) : IsEscaped inQuerySet (write pairs) := by
  induction pairs with
  | nil => simp [IsEscaped, write, joinWith]
  | cons pair pairs ih =>
    cases pairs with
    | nil => exact fun c hc => (of_mem_writePair hc).1
    | cons next pairs =>
      intro c hc
      simp only [write, List.map_cons, joinWith, List.mem_append, List.mem_singleton] at hc
      rcases hc with (hc | rfl) | hc
      · exact (of_mem_writePair hc).1
      · decide
      · exact ih c hc

/-! ## names and values -/

/-- A byte with a space for a plus sign. -/
def spaced (b : UInt8) : UInt8 :=
  if b = 0x2B then 0x20 else b

theorem map_spaced_escapeByte (b : UInt8) :
    (utf8 (escapeByte b)).map spaced = utf8 (escapeByte b) := by
  revert b
  exact forall_byte (by decide +kernel)

/-- A byte that is written as itself is no mark of its own. -/
theorem of_isPlain (b : UInt8) :
    isPlain b → utf8 [Char.ofNat b.toNat] = [b] ∧ spaced b = b ∧ b ≠ 0x25 := by
  revert b
  exact forall_byte (by decide +kernel)

/-- A byte is read as it was written. -/
theorem unescape_writeByte (b : UInt8) (bytes : List UInt8) :
    unescape ((utf8 (writeByte b)).map spaced ++ bytes) = b :: unescape bytes := by
  rw [writeByte]
  by_cases hplain : isPlain b
  · obtain ⟨hutf8, hspaced, hpercent⟩ := of_isPlain b hplain
    rw [if_pos hplain, hutf8, List.map_singleton, hspaced, List.singleton_append,
      unescape_cons hpercent]
  by_cases hspace : b = 0x20
  · rw [if_neg hplain, if_pos hspace, hspace]
    exact unescape_cons (by decide) bytes
  · rw [if_neg hplain, if_neg hspace, map_spaced_escapeByte, unescape_escapeByte]

/-- Bytes are read as they were written. -/
theorem unescape_writeBytes (bytes : List UInt8) :
    unescape ((utf8 (bytes.flatMap writeByte)).map spaced) = bytes := by
  induction bytes with
  | nil => simp [unescape]
  | cons b bytes ih =>
    rw [List.flatMap_cons, utf8_append, List.map_append, unescape_writeByte, ih]

/-- A name or a value is read as it was written. -/
theorem readText_writeText (s : List Char) : readText (writeText s) = s := by
  change readUtf8 (unescape ((utf8 (writeText s)).map spaced)) = s
  rw [writeText, unescape_writeBytes, readUtf8_utf8]

/-! ## pairs -/

/-- A pair is read as it was written. -/
theorem readPair_writePair (pair : Pair) : readPair (writePair pair) = pair := by
  have hname : '=' ∉ writeText pair.1 := fun h => (of_mem_writeText h).2.2.2 rfl
  simp only [readPair, writePair, cut?_append_cons hname, readText_writeText]

/-- Pairs are read as they were written. -/
theorem read_write (pairs : List Pair) : read (write pairs) = pairs := by
  cases pairs with
  | nil => rfl
  | cons pair pairs =>
    have hne : ((pair :: pairs).map writePair) ≠ [] := List.cons_ne_nil _ _
    have hmarks : ∀ piece ∈ (pair :: pairs).map writePair, '&' ∉ piece := by
      simp only [List.forall_mem_map]
      exact fun pair _ h => (of_mem_writePair h).2 rfl
    have hfilled : ∀ piece ∈ (pair :: pairs).map writePair, !piece.isEmpty := by
      simp only [List.forall_mem_map]
      exact fun pair _ => by simp [writePair]
    rw [read, write, splitOn_joinWith hne hmarks, List.filter_eq_self.2 hfilled, List.map_map]
    exact List.map_id'' readPair_writePair _

/-- Pairs are read one side of a mark between them after the other. -/
theorem read_append (a b : List Char) : read (a ++ '&' :: b) = read a ++ read b := by
  rw [read, splitOn_append_cons, List.filter_append, List.map_append]
  rfl

/-- A pair is read where it stands, whatever pairs stand around it. -/
theorem read_between {before behind : List Char}
    (hbefore : before = [] ∨ ∃ others, before = others ++ ['&'])
    (hbehind : behind = [] ∨ ∃ others, behind = '&' :: others) (pair : Pair) :
    read (before ++ (writePair pair ++ behind)) = read before ++ pair :: read behind := by
  have hpair : read (writePair pair ++ behind) = pair :: read behind := by
    have hread : read (writePair pair) = [pair] := read_write [pair]
    rcases hbehind with rfl | ⟨others, rfl⟩
    · rw [List.append_nil, hread]
      rfl
    · have hmark : read ('&' :: others) = read others := read_append [] others
      rw [read_append, hread, hmark]
      rfl
  rcases hbefore with rfl | ⟨others, rfl⟩
  · exact hpair
  · have hmark : read (others ++ ['&']) = read others :=
      (read_append others []).trans (List.append_nil _)
    rw [List.append_assoc, List.singleton_append, read_append, hpair, hmark]

end NarIndex.Url.Form
