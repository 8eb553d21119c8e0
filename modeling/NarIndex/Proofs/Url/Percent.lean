import NarIndex.Url.Percent

/-!
# NarIndex.Proofs.Url.Percent

Escaped texts have no character of the set that they are escaped for, and texts without such
characters stay as they are (`isEscaped_escape`, `IsEscaped.escape`); the bytes of an escaped byte
spell that byte (`unescape_escapeByte`).
-/

namespace NarIndex.Url

open NarIndex.Text

variable {set : Char → Bool} {s : List Char} {c : Char}

/-- What holds of the bytes counted through holds of every byte. -/
theorem forall_byte {P : UInt8 → Prop} (h : ∀ n < 0x100, P (UInt8.ofNat n)) (b : UInt8) : P b := by
  simpa using h b.toNat b.toNat_lt

/-- What holds of the characters of ASCII counted through holds of each of them. -/
theorem forall_ascii {P : Char → Prop} (h : ∀ n < 0x80, P (Char.ofNat n)) (c : Char)
    (hc : c.toNat < 0x80) : P c := by
  simpa [Char.ofNat_toNat] using h c.toNat hc

/-- An escaped byte is written with characters outside the set, if the set leaves the percent sign
and the hexadecimal digits alone. -/
theorem set_eq_false_of_mem_escapeByte (hpercent : set '%' = false)
    (hdigit : ∀ n < 16, set (hexDigit n) = false) {b : UInt8} (h : c ∈ escapeByte b) :
    set c = false := by
  have hb := b.toNat_lt
  simp only [escapeByte, List.mem_cons, List.not_mem_nil, or_false] at h
  rcases h with rfl | rfl | rfl
  · exact hpercent
  · exact hdigit _ (by omega)
  · exact hdigit _ (by omega)

/-- A character of an escaped text is one of the text, and not in the set, or one that a byte is
escaped with. -/
theorem of_mem_escape (h : c ∈ escape set s) :
    (c ∈ s ∧ c.toNat < 0x80 ∧ set c = false) ∨ ∃ b, c ∈ escapeByte b := by
  obtain ⟨d, hd, hc⟩ := List.mem_flatMap.1 h
  rw [escapeChar] at hc
  split at hc
  · rename_i hplain
    rw [List.mem_singleton.1 hc]
    exact .inl ⟨hd, by simpa using hplain⟩
  · obtain ⟨b, -, hb⟩ := List.mem_flatMap.1 hc
    exact .inr ⟨b, hb⟩

/-- Escaping leaves no character of the set. -/
theorem set_eq_false_of_mem_escape (hpercent : set '%' = false)
    (hdigit : ∀ n < 16, set (hexDigit n) = false) (h : c ∈ escape set s) : set c = false := by
  rcases of_mem_escape h with ⟨-, -, hset⟩ | ⟨b, hb⟩
  · exact hset
  · exact set_eq_false_of_mem_escapeByte hpercent hdigit hb

/-- An escaped login has nothing in it that ends it. -/
theorem not_inUserinfoSet_of_mem_escape (h : c ∈ escape inUserinfoSet s) :
    inUserinfoSet c = false :=
  set_eq_false_of_mem_escape (by decide) (by decide) h

/-- A character of an escaped text that no byte is escaped with comes from the text itself. -/
theorem mem_of_mem_escape (hpercent : c ≠ '%') (hdigit : ∀ n < 16, c ≠ hexDigit n)
    (h : c ∈ escape set s) : c ∈ s := by
  rcases of_mem_escape h with ⟨hs, -, -⟩ | ⟨b, hb⟩
  · exact hs
  · let other (d : Char) : Bool := c == d
    have hother : other c = false := set_eq_false_of_mem_escapeByte (beq_false_of_ne hpercent)
      (fun n hn => beq_false_of_ne (hdigit n hn)) hb
    simp [other] at hother

theorem utf8Char_ne_nil (c : Char) : utf8Char c ≠ [] := by
  grind [utf8Char]

theorem escapeChar_ne_nil : escapeChar set c ≠ [] := by
  simp only [escapeChar]
  split
  · exact List.cons_ne_nil _ _
  · obtain ⟨b, bytes, hbytes⟩ := List.exists_cons_of_ne_nil (utf8Char_ne_nil c)
    simp [hbytes, escapeByte]

/-- Only an empty text is escaped to nothing. -/
theorem escape_ne_nil (h : s ≠ []) : escape set s ≠ [] := by
  obtain ⟨c, s, rfl⟩ := List.exists_cons_of_ne_nil h
  simp [escape, escapeChar_ne_nil]

/-- Sets that agree on a text escape it alike. -/
theorem escape_congr {set' : Char → Bool} (h : ∀ c ∈ s, set c = set' c) :
    escape set s = escape set' s := by
  rw [escape, escape, List.flatMap_def, List.flatMap_def]
  refine congrArg List.flatten (List.map_congr_left fun c hc => ?_)
  rw [escapeChar, escapeChar, h c hc]

/-- What an escaped text begins with, if nothing in it is escaped, the text itself begins with. -/
theorem prefix_of_escape {t : List Char} (ht : '%' ∉ t) (h : t <+: escape set s) : t <+: s := by
  induction t generalizing s with
  | nil => exact List.nil_prefix
  | cons d t ih =>
    obtain ⟨hd, ht⟩ := not_or.1 (mt List.mem_cons.2 ht)
    cases s with
    | nil => simp at h
    | cons c s =>
      have happend : escape set (c :: s) = escapeChar set c ++ escape set s := rfl
      rw [happend, escapeChar] at h
      split at h
      · rw [List.singleton_append, List.cons_prefix_cons] at h
        exact List.cons_prefix_cons.2 ⟨h.1, ih ht h.2⟩
      · obtain ⟨b, bytes, hbytes⟩ := List.exists_cons_of_ne_nil (utf8Char_ne_nil c)
        simp [hbytes, escapeByte, List.cons_prefix_cons, Ne.symm hd] at h

/-! ## escaped texts -/

/-- Whether a text has nothing left to escape. -/
def IsEscaped (set : Char → Bool) (s : List Char) : Prop :=
  ∀ c ∈ s, c.toNat < 0x80 ∧ set c = false

/-- An escaped text has no character of the set. -/
theorem IsEscaped.notMem (h : IsEscaped set s) (hc : set c = true) : c ∉ s :=
  fun hmem => Bool.false_ne_true ((h c hmem).2.symm.trans hc)

/-- A text that is escaped stays as it is. -/
theorem IsEscaped.escape (h : IsEscaped set s) : escape set s = s := by
  induction s with
  | nil => rfl
  | cons c s ih =>
    obtain ⟨⟨hascii, hset⟩, hs⟩ := List.forall_mem_cons.1 h
    change escapeChar set c ++ Url.escape set s = c :: s
    rw [ih hs, escapeChar, hset, if_pos (by simpa using hascii)]
    rfl

theorem toNat_hexDigit_lt : ∀ n < 16, (hexDigit n).toNat < 0x80 := by
  decide

theorem toNat_lt_of_mem_escapeByte {b : UInt8} (h : c ∈ escapeByte b) : c.toNat < 0x80 := by
  have hb := b.toNat_lt
  simp only [escapeByte, List.mem_cons, List.not_mem_nil, or_false] at h
  rcases h with rfl | rfl | rfl
  · decide
  · exact toNat_hexDigit_lt _ (by omega)
  · exact toNat_hexDigit_lt _ (by omega)

/-- An escaped text is in ASCII. -/
theorem toNat_lt_of_mem_escape (h : c ∈ escape set s) : c.toNat < 0x80 := by
  rcases of_mem_escape h with ⟨-, hascii, -⟩ | ⟨b, hb⟩
  · exact hascii
  · exact toNat_lt_of_mem_escapeByte hb

theorem isEscaped_escape (hpercent : set '%' = false)
    (hdigit : ∀ n < 16, set (hexDigit n) = false) (s : List Char) : IsEscaped set (escape set s) :=
  fun _ hc => ⟨toNat_lt_of_mem_escape hc, set_eq_false_of_mem_escape hpercent hdigit hc⟩

/-! ## reading -/

theorem utf8Char_of_lt (h : c.toNat < 0x80) : utf8Char c = [UInt8.ofNat c.toNat] :=
  if_pos h

/-- An escaped byte is read as the byte it is. -/
theorem unescape_escapeByte (b : UInt8) (bytes : List UInt8) :
    unescape (utf8 (escapeByte b) ++ bytes) = b :: unescape bytes := by
  have hb := b.toNat_lt
  have hhigh : b.toNat / 16 < 16 := by omega
  have hlow : b.toNat % 16 < 16 := by omega
  have hvalue {n : Nat} (hn : n < 16) : byteValue? (UInt8.ofNat (hexDigit n).toNat) = some n := by
    have hlt := toNat_hexDigit_lt n hn
    rw [byteValue?, UInt8.toNat_ofNat', Nat.mod_eq_of_lt (by omega), Char.ofNat_toNat,
      hexValue?_hexDigit hn]
  have hutf8 : utf8 (escapeByte b) =
      [0x25, UInt8.ofNat (hexDigit (b.toNat / 16)).toNat,
        UInt8.ofNat (hexDigit (b.toNat % 16)).toNat] := by
    simp only [escapeByte, utf8_cons, utf8_nil, utf8Char_of_lt (toNat_hexDigit_lt _ hhigh),
      utf8Char_of_lt (toNat_hexDigit_lt _ hlow)]
    rfl
  rw [hutf8]
  simp only [List.cons_append, List.nil_append]
  rw [unescape]
  simp only [if_true, hvalue hhigh, hvalue hlow]
  rw [Nat.div_add_mod, UInt8.ofNat_toNat]

theorem unescape_cons {b : UInt8} (h : b ≠ 0x25) (bytes : List UInt8) :
    unescape (b :: bytes) = b :: unescape bytes := by
  rw [unescape.eq_def]
  exact if_neg h

/-- What is escaped together with the percent sign is read as the text it was. -/
theorem unescape_escape (hpercent : set '%' = true) (s : List Char) :
    unescape (utf8 (escape set s)) = utf8 s := by
  have hbytes (bytes : List UInt8) (tail : List UInt8) :
      unescape (utf8 (bytes.flatMap escapeByte) ++ tail) = bytes ++ unescape tail := by
    induction bytes with
    | nil => rfl
    | cons b bytes ih =>
      rw [List.flatMap_cons, utf8_append, List.append_assoc, unescape_escapeByte, ih]
      rfl
  induction s with
  | nil => simp [unescape]
  | cons c s ih =>
    change unescape (utf8 (escapeChar set c ++ escape set s)) = utf8Char c ++ utf8 s
    rw [utf8_append, escapeChar]
    split
    · rename_i hplain
      obtain ⟨hascii, hset⟩ : c.toNat < 0x80 ∧ set c = false := by simpa using hplain
      have hbyte : UInt8.ofNat c.toNat ≠ 0x25 := fun heq => by
        have hnat : c.toNat % 256 = 0x25 := by simpa using congrArg UInt8.toNat heq
        have hlt : c.toNat < 256 := by omega
        have hc : c = '%' := Char.toNat_inj.1 ((Nat.mod_eq_of_lt hlt).symm.trans hnat)
        exact Bool.false_ne_true (hset.symm.trans (hc ▸ hpercent))
      rw [utf8_cons, utf8_nil, List.append_nil, utf8Char_of_lt hascii, List.singleton_append,
        unescape_cons hbyte, ih]
      rfl
    · rw [hbytes, ih]

/-- A text without percent signs is read from its escaped form. -/
theorem unescape_escape_of_notMem (h : '%' ∉ s) : unescape (utf8 (escape set s)) = utf8 s := by
  let set' (c : Char) : Bool := set c || c == '%'
  have hset : ∀ c ∈ s, set c = set' c := fun c hc => by
    have hne : c ≠ '%' := fun heq => h (heq ▸ hc)
    simp [set', hne]
  rw [escape_congr hset, unescape_escape (by simp [set'])]

/-- Escaping makes nothing shorter. -/
theorem length_le_length_escape (s : List Char) : s.length ≤ (escape set s).length := by
  induction s with
  | nil => exact Nat.le_refl 0
  | cons c s ih =>
    have hpos : 0 < (escapeChar set c).length := List.length_pos_iff.2 escapeChar_ne_nil
    have happend : (escape set (c :: s)).length =
        (escapeChar set c).length + (escape set s).length := by simp [escape]
    rw [happend, List.length_cons]
    omega

/-- Only a text with nothing to escape stays as it is. -/
theorem escape_eq_self_iff : escape set s = s ↔ IsEscaped set s := by
  refine ⟨fun h => ?_, IsEscaped.escape⟩
  induction s with
  | nil => exact fun c hc => absurd hc List.not_mem_nil
  | cons c s ih =>
    have happend : escapeChar set c ++ escape set s = c :: s := h
    rw [escapeChar] at happend
    split at happend
    · rename_i hplain
      exact List.forall_mem_cons.2 ⟨by simpa using hplain, ih (List.cons.inj happend).2⟩
    · -- An escaped byte alone is longer than the character that it is a part of.
      obtain ⟨b, bytes, hbytes⟩ := List.exists_cons_of_ne_nil (utf8Char_ne_nil c)
      have hle : s.length ≤ (escape set s).length := length_le_length_escape s
      have hlength := congrArg List.length happend
      simp only [hbytes, List.flatMap_cons, escapeByte, List.length_append,
        List.length_cons] at hlength
      omega

end NarIndex.Url
