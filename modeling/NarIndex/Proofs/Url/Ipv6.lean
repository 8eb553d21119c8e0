import Mathlib.Algebra.Group.Nat.Defs
import NarIndex.Url.Ipv6

/-!
# NarIndex.Proofs.Url.Ipv6

An address is read as it is written (`parse?_write`), with the zeros that `::` stands for, and what
is read is an address: eight pieces of 16 bits (`isAddress_of_parse?`).
-/

namespace NarIndex.Url.Ipv6

open NarIndex.Text

/-- Whether pieces are all of 16 bits. -/
def Fit (pieces : List Nat) : Prop :=
  ∀ piece ∈ pieces, piece < 0x10000

/-- Whether pieces make up an address. -/
structure IsAddress (pieces : List Nat) : Prop where
  length : pieces.length = 8
  fit : Fit pieces

variable {pieces front back : List Nat} {piece value fuel : Nat} {rest s : List Char}
  {groups : Groups}

/-! ## digits -/

theorem hexValue?_digitChar : ∀ n < 16, hexValue? n.digitChar = some n := by
  decide

/-- Digits that a number is written with are hexadecimal ones. -/
theorem isSome_hexValue?_of_mem_toDigits (value : Nat) :
    ∀ c ∈ Nat.toDigits 16 value, (hexValue? c).isSome := by
  induction value using Nat.strongRecOn with
  | ind value ih =>
    by_cases hsmall : value < 16
    · simp [Nat.toDigits_of_lt_base hsmall, hexValue?_digitChar value hsmall]
    · rw [Nat.toDigits_of_base_le (by decide) (by omega)]
      refine List.forall_mem_append.2 ⟨ih (value / 16) (by omega), ?_⟩
      simp [hexValue?_digitChar (value % 16) (by omega)]

/-- A number that is written with few enough digits is read from them. -/
theorem readHex_append_toDigits {limit : Nat} (rest : List Char)
    (h : (Nat.toDigits 16 value).length ≤ limit) :
    readHex limit 0 (Nat.toDigits 16 value ++ rest) =
      readHex (limit - (Nat.toDigits 16 value).length) value rest := by
  -- The last digit is read behind those of the number without it.
  induction value using Nat.strongRecOn generalizing rest with
  | ind value ih =>
    by_cases hsmall : value < 16
    · rw [Nat.toDigits_of_lt_base hsmall] at h ⊢
      obtain ⟨limit, rfl⟩ := Nat.exists_eq_add_of_le' h
      simp [readHex, hexValue?_digitChar value hsmall]
    · have hdigits := Nat.toDigits_of_base_le (b := 16) (by decide) (Nat.le_of_not_lt hsmall)
      rw [hdigits, List.length_append, List.length_singleton] at h
      have hfront := ih (value / 16) (by omega) ((value % 16).digitChar :: rest) (by omega)
      obtain ⟨left, hleft⟩ : ∃ left,
          limit - (Nat.toDigits 16 (value / 16)).length = left + 1 :=
        Nat.exists_eq_add_of_le' (Nat.le_sub_of_add_le' h)
      have hvalue : value / 16 * 16 + value % 16 = value := by omega
      rw [hdigits, List.append_assoc, List.singleton_append, hfront, hleft, readHex,
        hexValue?_digitChar (value % 16) (by omega), List.length_append, List.length_singleton,
        ← Nat.sub_sub, hleft]
      simp [hvalue]

/-- Where no digit follows, the number is read. -/
theorem readHex_of_no_digit {limit : Nat} (h : ∀ c ∈ rest.head?, hexValue? c = none) :
    readHex limit value rest = (value, rest) := by
  cases limit with
  | zero => rfl
  | succ limit =>
    cases rest with
    | nil => rfl
    | cons c rest => simp [readHex, h c rfl]

/-- A piece is read as it is written. -/
theorem readHex_toDigits (hpiece : piece < 0x10000) (rest : List Char)
    (h : ∀ c ∈ rest.head?, hexValue? c = none) :
    readHex 4 0 (Nat.toDigits 16 piece ++ rest) = (piece, rest) := by
  have hlength : (Nat.toDigits 16 piece).length ≤ 4 :=
    (Nat.length_toDigits_le_iff (by decide) (by decide)).2 hpiece
  rw [readHex_append_toDigits rest hlength, readHex_of_no_digit h]

/-- The first digit of a number. -/
theorem exists_toDigits_eq_cons (value : Nat) :
    ∃ c digits, Nat.toDigits 16 value = c :: digits ∧ c ≠ ':' := by
  obtain ⟨c, digits, hdigits⟩ :=
    List.exists_cons_of_ne_nil (Nat.toDigits_ne_nil (n := value) (b := 16))
  refine ⟨c, digits, hdigits, fun hc => ?_⟩
  have hdigit := isSome_hexValue?_of_mem_toDigits value c (by simp [hdigits])
  subst hc
  contradiction

/-! ## groups -/

/-- A piece at the end. -/
theorem readGroups_toDigits (hpiece : piece < 0x10000) (hfull : groups.pieces.length ≠ 8) :
    readGroups (fuel + 1) groups (Nat.toDigits 16 piece) =
      some ⟨groups.pieces ++ [piece], groups.gap⟩ := by
  obtain ⟨c, digits, hdigits, hcolon⟩ := exists_toDigits_eq_cons piece
  have hread := readHex_toDigits hpiece [] (by simp)
  rw [List.append_nil, hdigits] at hread
  rw [hdigits, readGroups, if_neg hfull, if_neg hcolon, hread]

/-- A piece with a colon behind it, and something behind that. -/
theorem readGroups_toDigits_colon (hpiece : piece < 0x10000) (hfull : groups.pieces.length ≠ 8)
    (hrest : rest ≠ []) :
    readGroups (fuel + 1) groups (Nat.toDigits 16 piece ++ ':' :: rest) =
      readGroups fuel ⟨groups.pieces ++ [piece], groups.gap⟩ rest := by
  obtain ⟨c, digits, hdigits, hcolon⟩ := exists_toDigits_eq_cons piece
  have hread := readHex_toDigits hpiece (':' :: rest)
    (by simp [show hexValue? ':' = none by decide])
  rw [hdigits, List.cons_append] at hread
  rw [hdigits, List.cons_append, readGroups, if_neg hfull, if_neg hcolon, hread]
  simp [hrest]

/-- A colon where a piece could begin. -/
theorem readGroups_colon (groups : Groups) (hfull : groups.pieces.length ≠ 8)
    (hgap : groups.gap = none) :
    readGroups (fuel + 1) groups (':' :: rest) =
      readGroups fuel ⟨groups.pieces ++ [0], some (groups.pieces.length + 1)⟩ rest := by
  simp [readGroups, hfull, hgap]

theorem writePieces_cons_cons (piece next : Nat) (pieces : List Nat) :
    writePieces (piece :: next :: pieces) =
      Nat.toDigits 16 piece ++ ':' :: writePieces (next :: pieces) := by
  simp [writePieces, List.intercalate]

theorem writePieces_singleton (piece : Nat) : writePieces [piece] = Nat.toDigits 16 piece := by
  simp [writePieces, List.intercalate]

theorem writePieces_ne_nil (h : pieces ≠ []) : writePieces pieces ≠ [] := by
  obtain ⟨piece, pieces, rfl⟩ := List.exists_cons_of_ne_nil h
  cases pieces with
  | nil => simp [writePieces_singleton, Nat.toDigits_ne_nil]
  | cons next pieces => simp [writePieces_cons_cons]

/-- Pieces are read as they are written. -/
theorem readGroups_writePieces (groups : Groups) (hfit : Fit pieces) (hfuel : pieces.length ≤ fuel)
    (hlength : groups.pieces.length + pieces.length ≤ 8) :
    readGroups fuel groups (writePieces pieces) = some ⟨groups.pieces ++ pieces, groups.gap⟩ := by
  induction pieces generalizing fuel groups with
  | nil => cases fuel <;> simp [writePieces, List.intercalate, readGroups]
  | cons piece pieces ih =>
    obtain ⟨hpiece, hpieces⟩ := List.forall_mem_cons.1 hfit
    obtain ⟨fuel, rfl⟩ := Nat.exists_eq_add_of_le' (Nat.le_trans (Nat.le_add_left 1 _) hfuel)
    simp only [List.length_cons] at hfuel hlength
    have hfull : groups.pieces.length ≠ 8 := by omega
    cases pieces with
    | nil => rw [writePieces_singleton, readGroups_toDigits hpiece hfull]
    | cons next pieces =>
      rw [writePieces_cons_cons,
        readGroups_toDigits_colon hpiece hfull (writePieces_ne_nil (List.cons_ne_nil _ _)),
        ih _ hpieces (by omega) (by simpa [Nat.add_assoc, Nat.add_comm 1] using hlength)]
      simp

/-- Pieces with two colons behind them. -/
theorem readGroups_writePieces_colons (fuel : Nat) (groups : Groups) (rest : List Char)
    (hne : front ≠ []) (hfit : Fit front)
    (hgap : groups.gap = none) (hlength : groups.pieces.length + front.length < 8) :
    readGroups (fuel + 1 + front.length) groups (writePieces front ++ ':' :: ':' :: rest) =
      readGroups fuel ⟨groups.pieces ++ front ++ [0],
        some (groups.pieces.length + front.length + 1)⟩ rest := by
  induction front generalizing groups with
  | nil => contradiction
  | cons piece front ih =>
    obtain ⟨hpiece, hfront⟩ := List.forall_mem_cons.1 hfit
    simp only [List.length_cons] at hlength ⊢
    have hfull : groups.pieces.length ≠ 8 := by omega
    cases front with
    | nil =>
      have hnext : (groups.pieces ++ [piece]).length ≠ 8 := by
        simp only [List.length_append, List.length_singleton, List.length_nil] at hlength ⊢
        omega
      rw [writePieces_singleton, List.length_nil, Nat.zero_add,
        readGroups_toDigits_colon hpiece hfull (List.cons_ne_nil _ _),
        readGroups_colon ⟨groups.pieces ++ [piece], groups.gap⟩ hnext hgap]
      simp [Nat.add_assoc]
    | cons next front =>
      have hnext := ih ⟨groups.pieces ++ [piece], groups.gap⟩ (List.cons_ne_nil _ _)
        hfront hgap (by simp only [List.length_append, List.length_singleton]; omega)
      rw [writePieces_cons_cons, List.append_assoc, List.cons_append, ← Nat.add_assoc,
        readGroups_toDigits_colon hpiece hfull (by simp), hnext]
      simp [Nat.add_assoc, Nat.add_comm 1]

/-! ## the longest run of zeros -/

/-- The zeros at the front of pieces. -/
def leadingZeros (pieces : List Nat) : List Nat :=
  pieces.takeWhile (· == 0)

/-- The pieces in front that are zero are so many zeros. -/
theorem leadingZeros_eq_replicate (pieces : List Nat) :
    leadingZeros pieces = List.replicate (leadingZeros pieces).length 0 := by
  refine List.eq_replicate_of_mem fun piece hpiece => ?_
  simpa using List.all_eq_true.1 List.all_takeWhile piece hpiece

/-- Of all runs of zeros, the one that is picked is a run of at least two. -/
theorem of_longestZeros {start length : Nat} (h : longestZeros pieces = some (start, length)) :
    2 ≤ length ∧ length = (leadingZeros (pieces.drop start)).length := by
  -- The invariant of the fold: what is best so far is such a run.
  refine List.foldlRecOn
    (motive := fun best => ∀ start length, best = some (start, length) →
      2 ≤ length ∧ length = (leadingZeros (pieces.drop start)).length)
    (List.range pieces.length) _ (by simp) (fun best hbest next _ start length hpicked => ?_)
    start length h
  rcases best with _ | ⟨first, most⟩ <;> dsimp only at hpicked
  case some =>
    have hmost := hbest first most rfl
    split at hpicked
    · cases hpicked
      exact ⟨by omega, rfl⟩
    · exact hbest start length hpicked
  case none =>
    split at hpicked
    · cases hpicked
      exact ⟨by assumption, rfl⟩
    · contradiction

/-- Pieces are those before the run that is picked, its zeros, and those behind it. -/
theorem eq_append_of_longestZeros {start length : Nat}
    (h : longestZeros pieces = some (start, length)) :
    pieces = pieces.take start ++ (List.replicate length 0 ++ pieces.drop (start + length)) := by
  obtain ⟨-, hlength⟩ := of_longestZeros h
  have hzeros : pieces.drop start =
      List.replicate length 0 ++ (pieces.drop start).dropWhile (· == 0) := by
    rw [hlength, ← leadingZeros_eq_replicate]
    exact List.takeWhile_append_dropWhile.symm
  have hrest : pieces.drop (start + length) = (pieces.drop start).dropWhile (· == 0) :=
    calc pieces.drop (start + length)
        = (pieces.drop start).drop length := List.drop_drop.symm
      _ = (List.replicate length 0 ++ (pieces.drop start).dropWhile (· == 0)).drop length := by
        rw [← hzeros]
      _ = (pieces.drop start).dropWhile (· == 0) := by simp
  rw [hrest, ← hzeros, List.take_append_drop]

/-! ## the whole -/

/-- A gap is filled up with zeros to eight pieces. -/
theorem Groups.complete?_gap (front back : List Nat) :
    Groups.complete? ⟨front ++ back, some front.length⟩ =
      some (front ++ (List.replicate (8 - (front ++ back).length) 0 ++ back)) := by
  simp [Groups.complete?]

/-- A piece has at least one digit. -/
theorem length_le_length_writePieces (pieces : List Nat) :
    pieces.length ≤ (writePieces pieces).length := by
  induction pieces with
  | nil => exact Nat.zero_le _
  | cons piece pieces ih =>
    cases pieces with
    | nil =>
      rw [writePieces_singleton]
      exact Nat.length_toDigits_pos
    | cons next pieces =>
      rw [writePieces_cons_cons]
      simp only [List.length_append, List.length_cons] at ih ⊢
      omega

/-- An address that begins with a piece is read group by group. -/
theorem parse?_toDigits_append (piece : Nat) (hs : s ≠ []) :
    parse? (Nat.toDigits 16 piece ++ s) =
      (readGroups (Nat.toDigits 16 piece ++ s).length ⟨[], none⟩
        (Nat.toDigits 16 piece ++ s)).bind Groups.complete? := by
  obtain ⟨c, digits, hdigits, hcolon⟩ := exists_toDigits_eq_cons piece
  obtain ⟨d, t, ht⟩ := List.exists_cons_of_ne_nil (List.append_ne_nil_of_right_ne_nil digits hs)
  rw [hdigits, List.cons_append, ht, parse?]
  · rfl
  all_goals simp [hcolon]

/-- Pieces are written with the first one in front. -/
theorem exists_writePieces_eq_append (piece : Nat) (pieces : List Nat) :
    ∃ s, writePieces (piece :: pieces) = Nat.toDigits 16 piece ++ s := by
  cases pieces with
  | nil => exact ⟨[], by simp [writePieces_singleton]⟩
  | cons next pieces => exact ⟨_, writePieces_cons_cons piece next pieces⟩

/-- Eight pieces without an abbreviation are read as they are. -/
theorem parse?_writePieces (h : IsAddress pieces) : parse? (writePieces pieces) = some pieces := by
  have hlength := h.length
  match pieces, h with
  | piece :: next :: pieces, h =>
    have hread := readGroups_writePieces ⟨[], none⟩ h.fit
      (length_le_length_writePieces _) (by simp [h.length])
    rw [writePieces_cons_cons] at hread ⊢
    rw [parse?_toDigits_append piece (List.cons_ne_nil _ _), hread]
    simp [Groups.complete?, h.length]

/-- Pieces around two colons are read with the zeros that are missing between them. -/
theorem parse?_colons (hfront : Fit front) (hback : Fit back)
    (hlength : front.length + back.length < 8) :
    parse? (writePieces front ++ ':' :: ':' :: writePieces back) =
      some (front ++ (List.replicate (8 - (front.length + back.length)) 0 ++ back)) := by
  have hcount := length_le_length_writePieces back
  have hmissing : 8 - (front ++ [0] ++ back).length + 1 = 8 - (front.length + back.length) := by
    simp only [List.length_append, List.length_singleton]
    omega
  have hcomplete : Groups.complete? ⟨front ++ [0] ++ back, some (front.length + 1)⟩ =
      some (front ++ (List.replicate (8 - (front.length + back.length)) 0 ++ back)) := by
    have hgap := Groups.complete?_gap (front ++ [0]) back
    rw [List.length_append, List.length_singleton] at hgap
    rw [hgap, ← hmissing, List.replicate_succ]
    simp
  cases front with
  | nil =>
    have hread := readGroups_writePieces ⟨[0], some 1⟩ hback hcount
      (by simp only [List.length_singleton]; simp at hlength; omega)
    change (readGroups (writePieces back).length ⟨[0], some 1⟩ (writePieces back)).bind
      Groups.complete? = _
    rw [hread]
    exact hcomplete
  | cons piece front =>
    obtain ⟨s, hs⟩ := exists_writePieces_eq_append piece front
    have htext : writePieces (piece :: front) ++ ':' :: ':' :: writePieces back =
        Nat.toDigits 16 piece ++ (s ++ ':' :: ':' :: writePieces back) := by
      rw [hs, List.append_assoc]
    have hfuel := length_le_length_writePieces (piece :: front)
    obtain ⟨fuel, hfuel, hle⟩ : ∃ fuel,
        (writePieces (piece :: front) ++ ':' :: ':' :: writePieces back).length =
          fuel + 1 + (piece :: front).length ∧ back.length ≤ fuel :=
      ⟨(writePieces (piece :: front)).length + 1 + (writePieces back).length
        - (piece :: front).length,
        by simp only [List.length_append, List.length_cons] at hfuel ⊢; omega, by omega⟩
    have hread := readGroups_writePieces_colons fuel ⟨[], none⟩ (writePieces back)
      (List.cons_ne_nil piece front) hfront rfl
      (by simp only [List.length_nil]; omega)
    have hbehind := readGroups_writePieces
      ⟨[] ++ (piece :: front) ++ [0], some (0 + (piece :: front).length + 1)⟩ hback hle
      (by simp only [List.length_append, List.length_nil, List.length_singleton]; omega)
    rw [htext, parse?_toDigits_append piece (by simp), ← htext, hfuel, hread]
    simp only [List.length_nil] at hbehind ⊢
    rw [hbehind, List.nil_append, Nat.zero_add]
    exact hcomplete

/-- An address is read as it is written. -/
theorem parse?_write (h : IsAddress pieces) : parse? (write pieces) = some pieces := by
  rw [write]
  cases hzeros : longestZeros pieces with
  | none => exact parse?_writePieces h
  | some run =>
    obtain ⟨start, length⟩ := run
    obtain ⟨hlong, -⟩ := of_longestZeros hzeros
    have hpieces := eq_append_of_longestZeros hzeros
    have hlength : (pieces.take start).length + (length + (pieces.drop (start + length)).length)
        = 8 := by
      have hcount := congrArg List.length hpieces
      rw [h.length, List.length_append, List.length_append, List.length_replicate] at hcount
      exact hcount.symm
    have hfront : Fit (pieces.take start) := fun piece hpiece =>
      h.fit piece (List.mem_of_mem_take hpiece)
    have hback : Fit (pieces.drop (start + length)) := fun piece hpiece =>
      h.fit piece (List.mem_of_mem_drop hpiece)
    have hread := parse?_colons hfront hback (by omega)
    rw [show 8 - ((pieces.take start).length + (pieces.drop (start + length)).length) = length by
      omega, ← hpieces] at hread
    simpa using hread

/-- An address is written with digits and colons. -/
theorem of_mem_write {c : Char} (h : c ∈ write pieces) : (hexValue? c).isSome ∨ c = ':' := by
  have hpieces (pieces : List Nat) (h : c ∈ writePieces pieces) :
      (hexValue? c).isSome ∨ c = ':' := by
    induction pieces with
    | nil => contradiction
    | cons piece pieces ih =>
      cases pieces with
      | nil =>
        rw [writePieces_singleton] at h
        exact .inl (isSome_hexValue?_of_mem_toDigits piece c h)
      | cons next pieces =>
        rw [writePieces_cons_cons, List.mem_append, List.mem_cons] at h
        rcases h with h | rfl | h
        · exact .inl (isSome_hexValue?_of_mem_toDigits piece c h)
        · exact .inr rfl
        · exact ih h
  rw [write] at h
  split at h
  · simp only [List.mem_append, List.mem_cons, List.not_mem_nil, or_false, or_self] at h
    rcases h with (h | h) | h
    · exact hpieces _ h
    · exact .inr h
    · exact hpieces _ h
  · exact hpieces _ h

/-! ## what is read -/

theorem hexValue?_lt {c : Char} {value : Nat} (h : hexValue? c = some value) : value < 16 := by
  rw [hexValue?] at h
  split at h
  · rename_i hdigit
    have hle : c.toNat ≤ '9'.toNat := (Char.isDigit_iff_toNat.1 hdigit).2
    cases h
    simp at hle ⊢
    omega
  · split at h
    · rename_i hlower
      have hle : c.toNat ≤ 'f'.toNat := hlower.2
      cases h
      simp at hle ⊢
      omega
    · split at h
      · rename_i hupper
        have hle : c.toNat ≤ 'F'.toNat := hupper.2
        cases h
        simp at hle ⊢
        omega
      · contradiction

/-- What is read has no more digits than there may be. -/
theorem readHex_lt (limit value : Nat) (s : List Char) :
    (readHex limit value s).1 < (value + 1) * 16 ^ limit := by
  have hstop (value limit : Nat) : value < (value + 1) * 16 ^ limit :=
    Nat.lt_of_lt_of_le (Nat.lt_succ_self value)
      (Nat.le_mul_of_pos_right _ (Nat.pow_pos (by decide)))
  induction limit generalizing value s with
  | zero => exact hstop value 0
  | succ limit ih =>
    cases s with
    | nil => exact hstop value (limit + 1)
    | cons c s =>
      rw [readHex]
      split
      · rename_i d hd
        have hdigit := hexValue?_lt hd
        calc (readHex limit (value * 16 + d) s).1
            < (value * 16 + d + 1) * 16 ^ limit := ih (value * 16 + d) s
          _ ≤ (value + 1) * 16 * 16 ^ limit := Nat.mul_le_mul_right _ (by omega)
          _ = (value + 1) * 16 ^ (limit + 1) := by rw [Nat.pow_succ', Nat.mul_assoc]
      · exact hstop value (limit + 1)

theorem readByte?_le {s : List Char} (h : readByte? s = some (value, rest)) : value ≤ 255 := by
  rw [readByte?] at h
  split at h
  · contradiction
  · rename_i hvalue
    cases h
    simp only [not_or] at hvalue
    omega

theorem readPointByte?_le {s : List Char} (h : readPointByte? s = some (value, rest)) :
    value ≤ 255 := by
  cases s with
  | nil => contradiction
  | cons c s =>
    rw [readPointByte?] at h
    split at h
    · exact readByte?_le h
    · contradiction

/-- An address of version 4 is two pieces. -/
theorem of_readIpv4? (h : readIpv4? s = some pieces) : pieces.length = 2 ∧ Fit pieces := by
  simp only [readIpv4?, Option.bind_eq_bind, Option.bind_eq_some_iff] at h
  obtain ⟨⟨a, _⟩, ha, ⟨b, _⟩, hb, ⟨c, _⟩, hc, ⟨d, _⟩, hd, h⟩ := h
  have ha := readByte?_le ha
  have hb := readPointByte?_le hb
  have hc := readPointByte?_le hc
  have hd := readPointByte?_le hd
  split at h
  · cases h
    refine ⟨rfl, ?_⟩
    simp only [Fit, List.forall_mem_cons]
    exact ⟨by omega, by omega, by simp⟩
  · contradiction

/-- Whether groups are so few that they could be those of an address. -/
structure Groups.Sound (groups : Groups) : Prop where
  length_le : groups.pieces.length ≤ 8
  fit : Fit groups.pieces

/-- Groups stay sound with more pieces, as long as there is room for them. -/
theorem Groups.Sound.append (h : groups.Sound) (hpieces : Fit pieces) (gap : Option Nat)
    (hlength : groups.pieces.length + pieces.length ≤ 8) :
    Groups.Sound ⟨groups.pieces ++ pieces, gap⟩ :=
  ⟨by simpa using hlength, List.forall_mem_append.2 ⟨h.fit, hpieces⟩⟩

/-- Every group that is read leaves room for those behind it, or is the last one. -/
theorem Groups.Sound.readGroups {read : Groups} (h : groups.Sound)
    (hread : readGroups fuel groups s = some read) : read.Sound := by
  induction fuel generalizing groups s with
  | zero =>
    cases s with
    | nil => exact Option.some.inj hread ▸ h
    | cons c s => contradiction
  | succ fuel ih =>
    cases s with
    | nil => exact Option.some.inj hread ▸ h
    | cons c s =>
      rw [Ipv6.readGroups] at hread
      by_cases hfull : groups.pieces.length = 8
      · rw [if_pos hfull] at hread
        contradiction
      have hroom : groups.pieces.length + 1 ≤ 8 := by have := h.length_le; omega
      obtain ⟨value, rest, hhex⟩ : ∃ value rest, readHex 4 0 (c :: s) = (value, rest) :=
        ⟨_, _, rfl⟩
      have hvalue : value < 0x10000 := by simpa [hhex] using readHex_lt 4 0 (c :: s)
      have hone {piece : Nat} (hpiece : piece < 0x10000) (gap : Option Nat) :
          Groups.Sound ⟨groups.pieces ++ [piece], gap⟩ :=
        h.append (by simpa [Fit] using hpiece) gap (by simpa using hroom)
      rw [if_neg hfull] at hread
      -- What stands here is the second of two colons, a number, or an address of the other kind.
      by_cases hcolon : c = ':'
      · rw [if_pos hcolon] at hread
        split at hread
        · contradiction
        · exact ih (hone (by decide) _) hread
      simp only [if_neg hcolon, hhex] at hread
      cases rest with
      | nil => exact Option.some.inj hread ▸ hone hvalue _
      | cons d rest =>
        dsimp only at hread
        split at hread
        · split at hread
          · contradiction
          · exact ih (hone hvalue _) hread
        · split at hread
          · split at hread
            · contradiction
            · rename_i hfew
              obtain ⟨last, hlast, rfl⟩ := Option.map_eq_some_iff.1 hread
              obtain ⟨htwo, hfit⟩ := of_readIpv4? hlast
              exact h.append hfit _ (by omega)
          · contradiction

/-- Sound groups that are complete are an address. -/
theorem Groups.Sound.isAddress (h : groups.Sound) (hcomplete : groups.complete? = some pieces) :
    IsAddress pieces := by
  have hlength := h.length_le
  rw [Groups.complete?] at hcomplete
  split at hcomplete
  · rename_i place _
    cases hcomplete
    refine ⟨by simp; omega, ?_⟩
    have hzeros : Fit (List.replicate (8 - groups.pieces.length) 0) := fun piece hpiece => by
      simp [List.eq_of_mem_replicate hpiece]
    exact List.forall_mem_append.2 ⟨List.forall_mem_append.2
      ⟨fun piece hpiece => h.fit piece (List.mem_of_mem_take hpiece), hzeros⟩,
      fun piece hpiece => h.fit piece (List.mem_of_mem_drop hpiece)⟩
  · split at hcomplete
    · cases hcomplete
      exact ⟨by omega, h.fit⟩
    · contradiction

/-- What is read is an address. -/
theorem isAddress_of_parse? (h : parse? s = some pieces) : IsAddress pieces := by
  have hread {fuel : Nat} {groups : Groups} {s : List Char} (hsound : groups.Sound)
      (h : (readGroups fuel groups s).bind Groups.complete? = some pieces) :
      IsAddress pieces := by
    obtain ⟨read, hread, hcomplete⟩ := Option.bind_eq_some_iff.1 h
    exact (hsound.readGroups hread).isAddress hcomplete
  rw [parse?.eq_def] at h
  dsimp only at h
  split at h
  · exact hread ⟨by simp, by simp [Fit]⟩ h
  · contradiction
  · contradiction
  · contradiction
  · exact hread ⟨by simp, by simp [Fit]⟩ h

end NarIndex.Url.Ipv6
