import NarIndex.Text.Utf8

/-!
# NarIndex.Proofs.Text.Utf8

The bytes of a text spell the text (`readUtf8_utf8`): every character is read from its own bytes and
no others, whatever stands behind it.  So there is no fault in them (`utf8Fault?_utf8`).
-/

namespace NarIndex.Text

variable {c : Char} {bytes : List UInt8}

theorem toNat_ofNat {n : Nat} (h : n < 0x100) : (UInt8.ofNat n).toNat = n :=
  Nat.mod_eq_of_lt h

/-- Whether a first byte, with all the bytes that have to follow it, is one character. -/
structure Spells (lead : UInt8) (tail : List UInt8) (c : Char) : Prop where
  follows : ∃ ranges, followers lead = some ranges ∧ tail.length = ranges.length ∧
    ∀ bytes, leadingIn ranges (tail ++ bytes) = tail
  assembles : assemble lead tail = c

/-- A byte in the range that is looked for leads, and those behind it are looked for next. -/
theorem leadingIn_cons {low high : Nat} {ranges : List (Nat × Nat)} {b : UInt8}
    (hlow : low ≤ b.toNat) (hhigh : b.toNat ≤ high) :
    leadingIn ((low, high) :: ranges) (b :: bytes) = b :: leadingIn ranges bytes := by
  rw [leadingIn, if_pos ⟨hlow, hhigh⟩]

/-- A scalar value is no surrogate and not above the last plane. -/
theorem toNat_isScalar (c : Char) : c.toNat < 0xD800 ∨ 0xDFFF < c.toNat ∧ c.toNat < 0x110000 :=
  c.valid

/-! ## the bytes of a character -/

/-- A byte of ASCII stands alone. -/
theorem followers_one (h : c.toNat < 0x80) :
    (UInt8.ofNat c.toNat).toNat = c.toNat ∧ followers (UInt8.ofNat c.toNat) = none := by
  have hbyte := toNat_ofNat (show c.toNat < 0x100 by omega)
  refine ⟨hbyte, ?_⟩
  simp only [followers, hbyte, if_pos (show c.toNat < 0xC2 by omega)]

/-- Two bytes spell a character from 80 to 7FF. -/
theorem spells_two (hlow : 0x80 ≤ c.toNat) (hhigh : c.toNat < 0x800) :
    Spells (UInt8.ofNat (0xC0 + c.toNat / 0x40)) [UInt8.ofNat (0x80 + c.toNat % 0x40)] c := by
  have hlead := toNat_ofNat (show 0xC0 + c.toNat / 0x40 < 0x100 by omega)
  have htail := toNat_ofNat (show 0x80 + c.toNat % 0x40 < 0x100 by omega)
  refine ⟨⟨[(0x80, 0xBF)], ?_, rfl, fun bytes => ?_⟩, ?_⟩
  · simp only [followers, hlead]
    grind
  · rw [List.singleton_append, leadingIn_cons (by omega) (by omega), leadingIn]
    simp
  · simp only [assemble, List.length_singleton, hlead, List.foldl_cons, List.foldl_nil, htail]
    rw [show (0xC0 + c.toNat / 0x40) % 0x20 * 0x40 + (0x80 + c.toNat % 0x40) % 0x40 = c.toNat by
      omega, Char.ofNat_toNat]

theorem spells_three (hlow : 0x800 ≤ c.toNat) (hhigh : c.toNat < 0x10000) :
    Spells (UInt8.ofNat (0xE0 + c.toNat / 0x1000))
      [UInt8.ofNat (0x80 + c.toNat / 0x40 % 0x40), UInt8.ofNat (0x80 + c.toNat % 0x40)] c := by
  have hscalar := toNat_isScalar c
  have hlead := toNat_ofNat (show 0xE0 + c.toNat / 0x1000 < 0x100 by omega)
  have hfirst := toNat_ofNat (show 0x80 + c.toNat / 0x40 % 0x40 < 0x100 by omega)
  have hsecond := toNat_ofNat (show 0x80 + c.toNat % 0x40 < 0x100 by omega)
  -- After the first and the fourteenth of these first bytes, not every byte may follow.
  obtain ⟨low, high, hfollowers, hle, hge⟩ : ∃ low high,
      followers (UInt8.ofNat (0xE0 + c.toNat / 0x1000)) = some [(low, high), (0x80, 0xBF)] ∧
        low ≤ 0x80 + c.toNat / 0x40 % 0x40 ∧ 0x80 + c.toNat / 0x40 % 0x40 ≤ high := by
    simp only [followers, hlead]
    by_cases hzero : c.toNat / 0x1000 = 0
    · exact ⟨0xA0, 0xBF, by simp [hzero], by omega, by omega⟩
    · by_cases hsurrogate : c.toNat / 0x1000 = 0xD
      · exact ⟨0x80, 0x9F, by simp [hsurrogate], by omega, by omega⟩
      · exact ⟨0x80, 0xBF, by grind, by omega, by omega⟩
  refine ⟨⟨_, hfollowers, rfl, fun bytes => ?_⟩, ?_⟩
  · rw [List.cons_append, leadingIn_cons (by omega) (by omega), List.singleton_append,
      leadingIn_cons (by omega) (by omega), leadingIn]
    simp
  · simp only [assemble, List.length_cons, List.length_nil, hlead, List.foldl_cons, List.foldl_nil,
      hfirst, hsecond]
    rw [show ((0xE0 + c.toNat / 0x1000) % 0x10 * 0x40
        + (0x80 + c.toNat / 0x40 % 0x40) % 0x40) * 0x40
        + (0x80 + c.toNat % 0x40) % 0x40 = c.toNat by omega, Char.ofNat_toNat]

theorem spells_four (hlow : 0x10000 ≤ c.toNat) :
    Spells (UInt8.ofNat (0xF0 + c.toNat / 0x40000))
      [UInt8.ofNat (0x80 + c.toNat / 0x1000 % 0x40), UInt8.ofNat (0x80 + c.toNat / 0x40 % 0x40),
        UInt8.ofNat (0x80 + c.toNat % 0x40)] c := by
  have hscalar := toNat_isScalar c
  have hlead := toNat_ofNat (show 0xF0 + c.toNat / 0x40000 < 0x100 by omega)
  have hfirst := toNat_ofNat (show 0x80 + c.toNat / 0x1000 % 0x40 < 0x100 by omega)
  have hsecond := toNat_ofNat (show 0x80 + c.toNat / 0x40 % 0x40 < 0x100 by omega)
  have hthird := toNat_ofNat (show 0x80 + c.toNat % 0x40 < 0x100 by omega)
  -- Nor after the first and the last of these.
  obtain ⟨low, high, hfollowers, hle, hge⟩ : ∃ low high,
      followers (UInt8.ofNat (0xF0 + c.toNat / 0x40000)) =
          some [(low, high), (0x80, 0xBF), (0x80, 0xBF)] ∧
        low ≤ 0x80 + c.toNat / 0x1000 % 0x40 ∧ 0x80 + c.toNat / 0x1000 % 0x40 ≤ high := by
    simp only [followers, hlead]
    by_cases hzero : c.toNat / 0x40000 = 0
    · exact ⟨0x90, 0xBF, by simp [hzero], by omega, by omega⟩
    · by_cases hlast : c.toNat / 0x40000 = 4
      · exact ⟨0x80, 0x8F, by simp [hlast], by omega, by omega⟩
      · exact ⟨0x80, 0xBF, by grind, by omega, by omega⟩
  refine ⟨⟨_, hfollowers, rfl, fun bytes => ?_⟩, ?_⟩
  · rw [List.cons_append, leadingIn_cons (by omega) (by omega), List.cons_append,
      leadingIn_cons (by omega) (by omega), List.singleton_append,
      leadingIn_cons (by omega) (by omega), leadingIn]
    simp
  · simp only [assemble, List.length_cons, List.length_nil, hlead, List.foldl_cons, List.foldl_nil,
      hfirst, hsecond, hthird]
    rw [show (((0xF0 + c.toNat / 0x40000) % 0x08 * 0x40
          + (0x80 + c.toNat / 0x1000 % 0x40) % 0x40) * 0x40
          + (0x80 + c.toNat / 0x40 % 0x40) % 0x40) * 0x40
        + (0x80 + c.toNat % 0x40) % 0x40 = c.toNat by omega, Char.ofNat_toNat]

/-- A character is a byte of its own, or a first byte with all the bytes that have to follow it. -/
theorem utf8Char_cases (c : Char) :
    (c.toNat < 0x80 ∧ utf8Char c = [UInt8.ofNat c.toNat]) ∨
      ∃ lead tail, utf8Char c = lead :: tail ∧ Spells lead tail c := by
  rw [utf8Char]
  by_cases hone : c.toNat < 0x80
  · exact .inl ⟨hone, if_pos hone⟩
  by_cases htwo : c.toNat < 0x800
  · simp only [if_neg hone, if_pos htwo]
    exact .inr ⟨_, _, rfl, spells_two (by omega) htwo⟩
  by_cases hthree : c.toNat < 0x10000
  · simp only [if_neg hone, if_neg htwo, if_pos hthree]
    exact .inr ⟨_, _, rfl, spells_three (by omega) hthree⟩
  · simp only [if_neg hone, if_neg htwo, if_neg hthree]
    exact .inr ⟨_, _, rfl, spells_four (by omega)⟩

/-! ## the bytes of a text -/

/-- A character is read from its bytes. -/
theorem readUtf8_append_char (c : Char) (bytes : List UInt8) :
    readUtf8 (utf8Char c ++ bytes) = c :: readUtf8 bytes := by
  rcases utf8Char_cases c with ⟨hone, hbytes⟩ | ⟨lead, tail, hbytes, hspells⟩
  · obtain ⟨hbyte, hlead⟩ := followers_one hone
    rw [hbytes, List.singleton_append, readUtf8, hlead]
    simp only [hbyte, if_pos hone, Char.ofNat_toNat]
  · obtain ⟨⟨ranges, hlead, hlength, htail⟩, hc⟩ := hspells
    rw [hbytes, List.cons_append, readUtf8, hlead]
    simp [htail, hlength, hc]

/-- The bytes of a text spell the text. -/
theorem readUtf8_utf8 (s : List Char) : readUtf8 (utf8 s) = s := by
  induction s with
  | nil => exact readUtf8_nil
  | cons c s ih => rw [utf8_cons, readUtf8_append_char, ih]

/-- There is no fault in the bytes of a character. -/
theorem utf8FaultFrom?_append_char (index : Nat) (c : Char) (bytes : List UInt8) :
    utf8FaultFrom? index (utf8Char c ++ bytes) =
      utf8FaultFrom? (index + (utf8Char c).length) bytes := by
  rcases utf8Char_cases c with ⟨hone, hbytes⟩ | ⟨lead, tail, hbytes, hspells⟩
  · obtain ⟨hbyte, hlead⟩ := followers_one hone
    rw [hbytes, List.singleton_append, utf8FaultFrom?, hlead]
    simp only [hbyte, if_pos hone, List.length_singleton]
  · obtain ⟨ranges, hlead, hlength, htail⟩ := hspells.follows
    rw [hbytes, List.cons_append, utf8FaultFrom?, hlead]
    simp [htail, hlength, Nat.add_comm, Nat.add_left_comm]

/-- There is no fault in the bytes of a text. -/
theorem utf8Fault?_utf8 (s : List Char) : utf8Fault? (utf8 s) = none := by
  have hnone (index : Nat) : utf8FaultFrom? index (utf8 s) = none := by
    induction s generalizing index with
    | nil => simp [utf8FaultFrom?]
    | cons c s ih => rw [utf8_cons, utf8FaultFrom?_append_char, ih]
  exact hnone 0

end NarIndex.Text
