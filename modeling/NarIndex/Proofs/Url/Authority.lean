import NarIndex.Proofs.Result
import NarIndex.Proofs.Url.Ipv6
import NarIndex.Proofs.Url.Login

/-!
# NarIndex.Proofs.Url.Authority

An authority of a plain scheme is read as it is written (`readAuthority_text`): the login before its
at sign, the host up to the first colon outside brackets, the port behind that.  What is read is in
the form in which it is written (`isPlain_of_readAuthority`).
-/

namespace NarIndex.Url

open NarIndex.Text

variable {c : Char} {s tail : List Char}

/-! ## hosts -/

namespace Host

/-- Whether a host is one of a plain scheme. -/
def IsPlain : Host → Prop
  | .name text => IsEscaped isControl text ∧ ∀ c ∈ text, isForbidden c = false
  | .ipv4 _ => False
  | .ipv6 pieces => Ipv6.IsAddress pieces

variable {host : Host}

/-- Escaping brings no character that is forbidden in a host. -/
theorem not_isForbidden_of_mem_escape (h : ∀ c ∈ s, isForbidden c = false) :
    ∀ c ∈ escape isControl s, isForbidden c = false := by
  intro c hc
  rcases of_mem_escape hc with ⟨hs, -, -⟩ | ⟨b, hb⟩
  · exact h c hs
  · exact set_eq_false_of_mem_escapeByte (by decide) (by decide) hb

/-- An address in brackets is read in its own form. -/
theorem isPlain_of_parseBracketed (h : parseBracketed s = .ok host) : host.IsPlain := by
  rw [parseBracketed] at h
  split at h
  · split at h
    · rename_i hpieces
      cases h
      exact Ipv6.isAddress_of_parse? hpieces
    · contradiction
  · contradiction

/-- What is read is a host of a plain scheme. -/
theorem isPlain_of_parsePlain (h : parsePlain s = .ok host) : host.IsPlain := by
  rw [parsePlain.eq_def] at h
  split at h
  · exact isPlain_of_parseBracketed h
  · split at h
    · contradiction
    · rename_i hforbidden
      cases h
      exact ⟨isEscaped_escape (by decide) (by decide) _,
        not_isForbidden_of_mem_escape (by simpa using hforbidden)⟩

/-- A host is read as it is written. -/
theorem parsePlain_text (h : host.IsPlain) : parsePlain host.text = .ok host := by
  match host, h with
  | .name text, ⟨hescaped, hallowed⟩ =>
    have hbracket : ∀ s, text ≠ '[' :: s := fun s hs => by
      have := hallowed '[' (by simp [hs])
      contradiction
    have hany : text.any isForbidden = false := by simpa using hallowed
    rw [Host.text, parsePlain]
    · simp [hany, hescaped.escape]
    · exact hbracket
  | .ipv6 pieces, haddress =>
    simp [Host.text, parsePlain, parseBracketed, Ipv6.parse?_write haddress]

theorem toNat_lt_of_isSome_hexValue? (h : (hexValue? c).isSome) : c.toNat < 0x80 := by
  rw [hexValue?] at h
  split at h
  · rename_i hdigit
    exact Nat.lt_of_le_of_lt (Char.isDigit_iff_toNat.1 hdigit).2 (by decide)
  · split at h
    · rename_i hlower
      have hle : c.toNat ≤ 'f'.toNat := hlower.2
      exact Nat.lt_of_le_of_lt hle (by decide)
    · split at h
      · rename_i hupper
        have hle : c.toNat ≤ 'F'.toNat := hupper.2
        exact Nat.lt_of_le_of_lt hle (by decide)
      · contradiction

/-- An address has nothing in it that could end it, in brackets or behind them. -/
theorem of_mem_write {pieces : List Nat} (h : c ∈ Ipv6.write pieces) :
    0x20 < c.toNat ∧ c ∉ ['/', '?', '#', '@', ']'] := by
  have hdigits := forall_ascii
    (P := fun c => (hexValue? c).isSome → 0x20 < c.toNat ∧ c ∉ ['/', '?', '#', '@', ']'])
    (by decide +kernel)
  rcases Ipv6.of_mem_write h with hdigit | rfl
  · exact hdigits c (toNat_lt_of_isSome_hexValue? hdigit) hdigit
  · decide

/-- A host is written with nothing invisible, and with none of the marks around an authority. -/
theorem of_mem_text (h : host.IsPlain) (hc : c ∈ host.text) :
    0x20 < c.toNat ∧ c ∉ ['/', '?', '#', '@'] := by
  have hname := forall_ascii
    (P := fun c => isControl c = false → isForbidden c = false →
      0x20 < c.toNat ∧ c ∉ ['/', '?', '#', '@']) (by decide +kernel)
  match host, h with
  | .name text, ⟨hescaped, hallowed⟩ =>
    obtain ⟨hascii, hcontrol⟩ := hescaped c hc
    exact hname c hascii hcontrol (hallowed c hc)
  | .ipv6 pieces, _ =>
    rw [Host.text, List.mem_cons, List.mem_append, List.mem_singleton] at hc
    rcases hc with rfl | hc | rfl
    · decide
    · obtain ⟨hvisible, hmarks⟩ := of_mem_write hc
      exact ⟨hvisible, fun hmem => hmarks (List.mem_append_left [']'] hmem)⟩
    · decide

/-- A host without colons and brackets is read through. -/
theorem splitHost_append (hs : ∀ c ∈ s, c ≠ ':' ∧ c ≠ '[') :
    splitHost false (s ++ tail) = (s ++ (splitHost false tail).1, (splitHost false tail).2) := by
  induction s with
  | nil => rfl
  | cons c s ih =>
    obtain ⟨⟨hcolon, hbracket⟩, hs⟩ := List.forall_mem_cons.1 hs
    simp [splitHost, hcolon, hbracket, ih hs]

/-- Within brackets a colon ends no host. -/
theorem splitHost_bracketed (hs : ']' ∉ s) :
    splitHost true (s ++ ']' :: tail) =
      (s ++ ']' :: (splitHost false tail).1, (splitHost false tail).2) := by
  induction s with
  | nil => simp [splitHost]
  | cons c s ih =>
    obtain ⟨hc, hs⟩ := not_or.1 (mt List.mem_cons.2 hs)
    simp [splitHost, Ne.symm hc, ih hs]

/-- A host ends at the colon behind it. -/
theorem splitHost_text (h : host.IsPlain) (htail : ∀ c ∈ tail.head?, c = ':') :
    splitHost false (host.text ++ tail) = (host.text, tail) := by
  have hstop : splitHost false tail = ([], tail) := by
    cases tail with
    | nil => rfl
    | cons c tail => simp [splitHost, htail c rfl]
  match host, h with
  | .name text, ⟨_, hallowed⟩ =>
    have hmarks : ∀ c ∈ text, c ≠ ':' ∧ c ≠ '[' := fun c hc =>
      ⟨by rintro rfl; exact absurd (hallowed _ hc) (by decide),
        by rintro rfl; exact absurd (hallowed _ hc) (by decide)⟩
    rw [Host.text, splitHost_append hmarks, hstop, List.append_nil]
  | .ipv6 pieces, _ =>
    have hbracket : ']' ∉ Ipv6.write pieces := fun hc => (of_mem_write hc).2 (by decide)
    have hsplit : splitHost true (Ipv6.write pieces ++ ']' :: tail) = _ :=
      splitHost_bracketed hbracket
    simp [Host.text, splitHost, hsplit, hstop]

end Host

/-! ## ports -/

/-- A port is read as it is written. -/
theorem readPort_toDigits {port : Nat} (h : port ≤ 65535) :
    readPort (Nat.toDigits 10 port) = .ok (some port, []) := by
  have hdigits : ∀ c ∈ Nat.toDigits 10 port, c.isDigit := fun _ =>
    Nat.isDigit_of_mem_toDigits (by decide) (by decide)
  have htake : (Nat.toDigits 10 port ++ []).takeWhile Char.isDigit = _ :=
    List.takeWhile_append_of_pos hdigits
  have hdrop : (Nat.toDigits 10 port ++ []).dropWhile Char.isDigit = _ :=
    List.dropWhile_append_of_pos hdigits
  simp only [List.append_nil, List.takeWhile_nil, List.dropWhile_nil] at htake hdrop
  simp [readPort, htake, hdrop, h, decimal_toDigits, Nat.toDigits_ne_nil]

/-- A port is a number of 16 bits. -/
theorem le_of_readPort {s rest : List Char} {port : Option Nat}
    (h : readPort s = .ok (port, rest)) : ∀ n ∈ port, n ≤ 65535 := by
  rw [readPort] at h
  split at h
  · contradiction
  · rename_i hle
    intro n hn
    split at h
    · split at h <;> cases h <;> simp_all
    · split at h
      · split at h <;> cases h <;> simp_all
      · contradiction

/-! ## the whole -/

namespace Authority

/-- The port of an authority with the colon before it, if there is one. -/
def portText : Option Nat → List Char
  | some port => ':' :: Nat.toDigits 10 port
  | none => []

/-- Whether an authority is one of a plain scheme: its parts are escaped, and with no host there is
nothing else. -/
structure IsPlain (a : Authority) : Prop where
  username : IsEscaped inUserinfoSet a.username
  password : ∀ p ∈ a.password, p ≠ [] ∧ IsEscaped inUserinfoSet p
  host : a.host.IsPlain
  port : ∀ n ∈ a.port, n ≤ 65535
  hostless : a.host.isEmpty → a.username = [] ∧ a.password = none ∧ a.port = none

variable {a : Authority}

theorem text_eq (a : Authority) : a.text = a.userinfo ++ (a.host.text ++ portText a.port) := by
  rw [text, List.append_assoc]
  cases a.port <;> rfl

/-- What stands before the at sign, if anything does. -/
theorem IsPlain.userinfo_cases (h : a.IsPlain) :
    (a.userinfo = [] ∧ a.username = [] ∧ a.password = none) ∨
      ∃ user, a.userinfo = user ++ ['@'] ∧ user ≠ [] ∧
        readUserinfo user = (a.username, a.password) := by
  have hcolon : ':' ∉ a.username := h.username.notMem (by decide)
  rw [userinfo]
  cases hpassword : a.password with
  | some password =>
    obtain ⟨hne, hescaped⟩ := h.password password hpassword
    have huser : IsUser a.username := h.username.escape ▸ isUser_escape a.username
    refine .inr ⟨a.username ++ ':' :: password, by simp, by simp, ?_⟩
    rw [readUserinfo_login huser hne, h.username.escape, hescaped.escape]
  | none =>
    by_cases hempty : a.username = []
    · exact .inl ⟨by simp [hempty], hempty, rfl⟩
    · have hread : cutOff ':' a.username = (a.username, none) := by
        simpa [cutOff, cut?] using cutOff_append (s := []) hcolon
      exact .inr ⟨a.username, by simp [hempty], hempty, by
        simp [readUserinfo, hread, h.username.escape]⟩

/-- A port is read as it is written. -/
theorem IsPlain.readPort_portText (h : a.IsPlain) :
    readPort ((portText a.port).drop 1) = .ok (a.port, []) := by
  cases hport : a.port with
  | none => rfl
  | some port => exact readPort_toDigits (h.port port hport)

theorem of_mem_portText {port : Option Nat} (hc : c ∈ portText port) : c = ':' ∨ c.isDigit := by
  cases port with
  | none => contradiction
  | some port =>
    exact (List.mem_cons.1 hc).imp_right fun hc =>
      Nat.isDigit_of_mem_toDigits (by decide) (by decide) hc

/-- Nothing in a host and a port ends an authority. -/
theorem of_mem_address (h : a.IsPlain) (hc : c ∈ a.host.text ++ portText a.port) :
    0x20 < c.toNat ∧ c ∉ ['/', '?', '#', '@'] := by
  have hdigits := forall_ascii
    (P := fun c => c.isDigit → 0x20 < c.toNat ∧ c ∉ ['/', '?', '#', '@']) (by decide +kernel)
  rcases List.mem_append.1 hc with hc | hc
  · exact Host.of_mem_text h.host hc
  · rcases of_mem_portText hc with rfl | hdigit
    · decide
    · exact hdigits c (Nat.lt_of_le_of_lt (Char.isDigit_iff_toNat.1 hdigit).2 (by decide)) hdigit

/-- A login is written with nothing invisible, and with none of the marks that end an authority. -/
theorem of_mem_userinfo (h : a.IsPlain) (hc : c ∈ a.userinfo) :
    0x20 < c.toNat ∧ c ∉ ['/', '?', '#'] := by
  have hlogin := forall_ascii (P := fun c => inUserinfoSet c = false →
    0x20 < c.toNat ∧ c ∉ ['/', '?', '#']) (by decide +kernel)
  have hescaped {s : List Char} (hs : IsEscaped inUserinfoSet s) (hc : c ∈ s) :=
    hlogin c (hs c hc).1 (hs c hc).2
  rw [userinfo] at hc
  cases hpassword : a.password with
  | some password =>
    simp only [hpassword, List.mem_append, List.mem_cons, List.not_mem_nil, or_false] at hc
    rcases hc with (hc | rfl | hc) | rfl
    · exact hescaped h.username hc
    · decide
    · exact hescaped (h.password password hpassword).2 hc
    · decide
  | none =>
    simp only [hpassword] at hc
    split at hc
    · exact absurd hc List.not_mem_nil
    · rcases List.mem_append.1 hc with hc | hc
      · exact hescaped h.username hc
      · rw [List.mem_singleton.1 hc]
        decide

/-- Nothing in an authority ends it. -/
theorem of_mem_text (h : a.IsPlain) (hc : c ∈ a.text) :
    0x20 < c.toNat ∧ c ∉ ['/', '?', '#'] := by
  rw [text_eq] at hc
  rcases List.mem_append.1 hc with hc | hc
  · exact of_mem_userinfo h hc
  · obtain ⟨hvisible, hmarks⟩ := of_mem_address h hc
    exact ⟨hvisible, fun hmem => hmarks (List.mem_append_left ['@'] hmem)⟩

end Authority

/-- An authority is read as it is written. -/
theorem readAuthority_text {a : Authority} (more : Bool) (h : a.IsPlain) :
    readAuthority false more a.text = .ok (a, []) := by
  have hat : '@' ∉ a.host.text ++ Authority.portText a.port := fun hc =>
    (Authority.of_mem_address h hc).2 (by decide)
  have hsplit : splitHost false (a.host.text ++ Authority.portText a.port) = _ :=
    Host.splitHost_text h.host (by cases a.port <;> simp [Authority.portText])
  have hport : a.host.isEmpty = true → Authority.portText a.port = [] := fun hempty => by
    rw [(h.hostless hempty).2.2]
    rfl
  have hempty : ¬(a.host.isEmpty = true ∧ Authority.portText a.port ≠ []) := fun hboth =>
    hboth.2 (hport hboth.1)
  have hlogin : ¬(a.host.isEmpty = true ∧ (!a.username.isEmpty || a.password.isSome) = true) :=
    fun hboth => by simp [h.hostless hboth.1] at hboth
  rw [readAuthority, Authority.text_eq]
  -- The text is cut at its last at sign, which is the one behind the login.
  rcases h.userinfo_cases with ⟨hnone, hname, hpassword⟩ | ⟨user, hsome, hne, hread⟩
  · have hread : readUserinfo [] = (a.username, a.password) := by
      simp [readUserinfo, cutOff, cut?, hname, hpassword]
    rw [hnone, List.nil_append, cutLast?_of_notMem hat]
    simp only [Option.getD_none, hread, hsplit, Host.parsePlain_text h.host, h.readPort_portText,
      reduceCtorEq, false_and, if_false, Bool.false_eq_true, bind, Except.bind, if_neg hempty,
      if_neg hlogin]
    rfl
  · rw [hsome, List.append_assoc, List.singleton_append, cutLast?_append_cons_of_notMem hat]
    simp only [Option.getD_some, Option.some.injEq, hne, hread, hsplit,
      Host.parsePlain_text h.host, h.readPort_portText, false_and, if_false, Bool.false_eq_true,
      bind, Except.bind, if_neg hempty, if_neg hlogin]
    rfl

theorem isEscaped_escape_userinfo (s : List Char) :
    IsEscaped inUserinfoSet (escape inUserinfoSet s) :=
  isEscaped_escape (by decide) (by decide) s

/-- What is read of a login is escaped. -/
theorem isEscaped_readUserinfo {username : List Char} {password : Option (List Char)}
    (h : readUserinfo s = (username, password)) :
    IsEscaped inUserinfoSet username ∧
      ∀ p ∈ password, p ≠ [] ∧ IsEscaped inUserinfoSet p := by
  rw [readUserinfo.eq_def] at h
  obtain ⟨rfl, rfl⟩ := Prod.mk.inj h
  refine ⟨isEscaped_escape_userinfo _, fun p hp => ?_⟩
  split at hp
  · contradiction
  · contradiction
  · rename_i password hne _
    cases Option.mem_some_iff.1 hp
    exact ⟨escape_ne_nil fun hnil => hne (hnil ▸ rfl), isEscaped_escape_userinfo password⟩

/-- What an authority is put together from. -/
theorem exists_of_readAuthority {more : Bool} {a : Authority} {rest : List Char}
    (h : readAuthority false more s = .ok (a, rest)) :
    ∃ user address, readUserinfo user = (a.username, a.password) ∧
      Host.parsePlain (splitHost false address).1 = .ok a.host ∧
      readPort ((splitHost false address).2.drop 1) = .ok (a.port, rest) ∧
      (a.host.isEmpty →
        (splitHost false address).2 = [] ∧ a.username = [] ∧ a.password = none) := by
  rw [readAuthority.eq_def] at h
  split at h
  rename_i user address _
  dsimp only at h
  split at h
  · contradiction
  simp only [Bool.false_eq_true, false_and, if_false] at h
  obtain ⟨host, hhost, h⟩ := bind_eq_ok h
  split at h
  · contradiction
  rename_i hnoPort
  obtain ⟨⟨port, rest'⟩, hport, h⟩ := bind_eq_ok h
  dsimp only at h
  split at h
  · contradiction
  rename_i hnoLogin
  cases h
  refine ⟨user.getD [], address, rfl, hhost, hport, fun hempty => ?_⟩
  simpa [hempty] using And.intro hnoPort hnoLogin

/-- What is read of an authority. -/
theorem isPlain_of_readAuthority {more : Bool} {a : Authority} {rest : List Char}
    (h : readAuthority false more s = .ok (a, rest)) : a.IsPlain := by
  obtain ⟨user, address, huser, hhost, hport, hempty⟩ := exists_of_readAuthority h
  have hlogin := isEscaped_readUserinfo huser
  refine ⟨hlogin.1, hlogin.2, Host.isPlain_of_parsePlain hhost, le_of_readPort hport, fun he => ?_⟩
  obtain ⟨hnone, hname, hpassword⟩ := hempty he
  have hread : readPort [] = .ok (a.port, rest) := by rw [hnone] at hport; exact hport
  exact ⟨hname, hpassword, (congrArg Prod.fst (Except.ok.inj hread)).symm⟩

end NarIndex.Url
