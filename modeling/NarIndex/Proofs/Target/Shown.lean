import NarIndex.Proofs.Target.Postgres
import NarIndex.Proofs.Url.Location
import NarIndex.Proofs.Url.Parameter

/-!
# NarIndex.Proofs.Target.Shown

What is shown of a connection string of PostgreSQL.  It can be read as a URL, and has the password
of the login masked, but all parameters in the clear (`redacted_shows_parameters`).  So a password
that stands in a parameter, where the driver takes it too, is shown as it is.
-/

namespace NarIndex.Target

open NarIndex.Text NarIndex.Url

variable {s : List Char} {url : Url} {target : Target}

/-! ## redaction -/

/-- Whether a URL is in a form in which it can be written and read, with or without an authority. -/
def IsWritten (url : Url) : Prop :=
  (url.IsPlain ∧ ∃ a, url.authority = some a) ∨ url.IsLocal

/-- A URL that was read is in a form in which it can be written. -/
theorem isWritten_of_parse {scheme rest : List Char} (hs : IsPlainScheme scheme)
    (h : Url.parse (scheme ++ ':' :: rest) = .ok url) : IsWritten url := by
  cases ha : url.authority with
  | none => exact .inr (isLocal_of_parse hs h ha)
  | some a => exact .inl ⟨isPlain_of_parse hs h, a, ha⟩

theorem isWritten_withScheme (h : IsWritten url) (scheme : List Char) :
    IsWritten { url with scheme } :=
  h.imp (fun ⟨h, ha⟩ => ⟨⟨h.1, h.2, h.3, h.4, h.5⟩, ha⟩) fun h => ⟨h.1, h.2, h.3, h.4, h.5⟩

/-- A URL is shown as it is if it has no password, else with a mask for it. -/
theorem redact_of_parse (h : Url.parse s = .ok url) :
    redact s = if url.password.isSome then (url.withPassword mask).text else s := by
  rw [redact, h]

/-- With its password masked, a URL is in the form in which it is read. -/
theorem isPlain_withPassword (h : url.IsPlain) (hp : url.password.isSome) :
    (url.withPassword mask).IsPlain := by
  refine ⟨fun b hb => ?_, h.path, fun hsome => h.rooted ?_, h.query, h.fragment⟩
  · obtain ⟨a, ha, rfl⟩ := Option.map_eq_some_iff.1 hb
    have hplain := h.authority a ha
    refine ⟨hplain.username, fun p hp => ?_, hplain.host, hplain.port, fun hempty => ?_⟩
    · cases Option.mem_some_iff.1 hp
      exact ⟨by decide, isEscaped_escape_userinfo mask⟩
    · have hnone := (hplain.hostless hempty).2.1
      simp [password, ha, hnone] at hp
  · simpa [withPassword] using hsome

/-- What is shown of a URL is read with its query, and with the password masked. -/
theorem exists_shown (h : IsWritten url) (hs : IsPlainScheme url.scheme)
    (hlower : toLower url.scheme = url.scheme) :
    ∃ shown, Url.parse (redact url.text) = .ok shown ∧
      shown.password = url.password.map (fun _ => mask) ∧ shown.query = url.query := by
  rcases h with ⟨hplain, a, ha⟩ | hlocal
  · have hparse := parse_text hplain ha hs hlower
    rw [redact_of_parse hparse]
    cases hp : url.password with
    | none => exact ⟨url, hparse, hp, rfl⟩
    | some p =>
      have hmasked : (url.withPassword mask).authority = some { a with password := some mask } := by
        have hmask : escape inUserinfoSet mask = mask := by decide
        rw [withPassword, ha, hmask]
        rfl
      have hplain := isPlain_withPassword hplain (Option.isSome_iff_exists.2 ⟨p, hp⟩)
      exact ⟨_, parse_text hplain hmasked hs hlower, by rw [password, hmasked]; rfl, rfl⟩
  · obtain ⟨read, hparse, ha, hquery⟩ := parse_text_of_isLocal hlocal hs
    have hnone {u : Url} (hu : u.authority = none) : u.password = none := by
      rw [password, hu]
      rfl
    rw [redact_of_parse hparse, hnone ha, hnone hlocal.authority]
    exact ⟨read, hparse, hnone ha, hquery⟩

namespace Postgres

variable {place : SocketPath}

/-! ## moving the socket -/

theorem isWritten_moveSocket (h : IsWritten url)
    (hplace : SocketPath.ofPath url.path.text = .ok place) : IsWritten (moveSocket url place) := by
  rcases h with ⟨hplain, a, ha⟩ | hlocal
  · exact .inl ⟨isPlain_moveSocket hplain ha hplace, a, (authority_withPath url _).trans ha⟩
  · obtain ⟨directory, hpath, -⟩ := ofPath_eq_ok_iff.1 hplace
    have hmarks : '?' ∉ place.database ∧ '#' ∉ place.database := by
      have hnone := hlocal.notMem_path
      simp_all
    obtain ⟨ha, hrooted, hunrooted, -, hfragment⟩ := hlocal.withPath hmarks
    refine .inr ⟨ha, hrooted, hunrooted, fun q hq => ?_, hfragment⟩
    cases Option.mem_some_iff.1 hq
    exact Form.isEscaped_write _

/-- A socket takes the place of the parameters of its own name, and leaves all else alone. -/
theorem shows_moveSocket (url : Url) (place : SocketPath) :
    (moveSocket url place).password = url.password ∧
      (moveSocket url place).pairs.filter (·.1 ≠ hostKey) = url.pairs.filter (·.1 ≠ hostKey) := by
  have hauthority : (moveSocket url place).authority = url.authority := authority_withPath url _
  have hpairs : (moveSocket url place).pairs =
      url.pairs.filter (·.1 ≠ hostKey) ++ [(hostKey, place.socket)] := Form.read_write _
  refine ⟨by rw [password, hauthority, password], ?_⟩
  rw [hpairs, List.filter_append, List.filter_filter, List.filter_cons_of_neg (by simp)]
  simp only [Bool.and_self, List.filter_nil, List.append_nil]

/-- What a redacted connection string says of a URL when it is read. -/
structure Shows (url shown : Url) : Prop where
  password : shown.password = url.password.map fun _ => mask
  parameters : shown.pairs.filter (·.1 ≠ "host".toList) = url.pairs.filter (·.1 ≠ "host".toList)

/-! ## targets -/

/-- What is shown of a target can be read, and tells the parameters of its URL. -/
theorem exists_shows (h : Target.parse s = .ok target) (hkind : target.kind = .postgres) :
    ∃ url shown, Url.parse s = .ok url ∧ Url.parse target.redacted = .ok shown ∧
      Shows url shown := by
  obtain ⟨base, scheme, rest, url, hbase, rfl, hmem, hurl, htarget⟩ := exists_of_parse h hkind
  have hscheme := isPlainScheme_of_server (kindOfScheme?_eq hbase hmem).1
  obtain ⟨hplain, hlower⟩ := isPlainScheme_of_base hbase
  have hwritten := isWritten_of_parse hscheme hurl
  rcases htarget with ⟨rfl, rfl⟩ | ⟨place, -, hplace, rfl⟩
  · obtain ⟨shown, hshown, hpassword, hquery⟩ := exists_shown hwritten hplain hlower
    exact ⟨url, shown, hurl, hshown, hpassword, by rw [pairs, hquery]; rfl⟩
  · let based : Url := { url with scheme := base }
    have hbased : IsWritten based := isWritten_withScheme hwritten base
    obtain ⟨hsame, hpairs⟩ := shows_moveSocket based place
    have hmoved : (moveSocket based place).scheme = base := scheme_withPath _ _
    obtain ⟨shown, hshown, hpassword, hquery⟩ :=
      exists_shown (isWritten_moveSocket hbased hplace) (hmoved ▸ hplain) (hmoved ▸ hlower)
    have hshownPairs : shown.pairs = (moveSocket based place).pairs := by rw [pairs, hquery]; rfl
    exact ⟨url, shown, hurl, hshown, hpassword.trans (congrArg (Option.map _) hsame),
      hshownPairs ▸ hpairs⟩

/-- Whether a URL leads to a target is a matter of its scheme and its path. -/
theorem exists_target {base scheme rest : List Char} (hbase : base ∈ baseSchemes)
    (hmem : toLower scheme ∈ [base, base ++ unixMark])
    (h : Url.parse (scheme ++ ':' :: rest) = .ok url)
    (htarget : url.scheme = base ∨
      url.scheme = base ++ unixMark ∧ ∃ place, SocketPath.ofPath url.path.text = .ok place) :
    ∃ target, Target.parse (scheme ++ ':' :: rest) = .ok target ∧ target.kind = .postgres := by
  rw [parse_eq hbase hmem]
  rcases htarget with hs | ⟨hs, place, hplace⟩
  · rw [connection_of_base hbase hs h]
    exact ⟨_, rfl, rfl⟩
  · rw [connection_of_unix hbase hs h, hplace]
    exact ⟨_, rfl, rfl⟩

/-- With another parameter in the same place, a URL leads to a target all the same. -/
theorem parse_fill_of_parse {slot : Slot} {pair : Form.Pair}
    (h : Target.parse (slot.fill pair) = .ok target) (hkind : target.kind = .postgres) :
    ∃ front back, ∀ pair, ∃ url target, Url.parse (slot.fill pair) = .ok url ∧
      url.pairs = front ++ pair :: back ∧ Target.parse (slot.fill pair) = .ok target ∧
        target.kind = .postgres := by
  obtain ⟨base, scheme, rest, read, hbase, hfill, hmem, hread, htarget⟩ := exists_of_parse h hkind
  have hscheme := isPlainScheme_of_server (kindOfScheme?_eq hbase hmem).1
  obtain ⟨body, hfront⟩ := Slot.exists_front (hscheme.not_mem (by decide)) hfill
  obtain ⟨front, back, hquery⟩ := slot.exists_read_query
  rcases parse_fill hscheme hfront with ⟨error, herror⟩ | ⟨url, hurl⟩
  · cases hread.symm.trans (herror pair)
  · cases (hurl pair).symm.trans hread
    refine ⟨front, back, fun other => ?_⟩
    have htext := slot.fill_eq hfront other
    have hother := hurl other
    rw [htext] at hother
    obtain ⟨target, hparse, hkind⟩ := exists_target hbase hmem hother
      (htarget.imp And.left fun ⟨place, hs, hplace, _⟩ => ⟨hs, place, hplace⟩)
    exact ⟨_, target, hurl other, hquery other, htext ▸ hparse, hkind⟩

/-- What is shown of a target has the password of the login masked, and nothing else: it can be
read, and tells all parameters but the one that names a socket.  So a URL with another value of a
parameter, a password or not, leads to a target too, of which something else is shown. -/
theorem redacted_shows_parameters (h : Target.parse s = .ok target)
    (hkind : target.kind = .postgres) :
    (∃ url shown, Url.parse s = .ok url ∧ Url.parse target.redacted = .ok shown ∧
      Shows url shown) ∧
    ∀ (slot : Slot) key p, key ≠ "host".toList → s = slot.fill (key, p) → ∀ q, ∃ other,
      Target.parse (slot.fill (key, q)) = .ok other ∧
        (other.redacted = target.redacted ↔ q = p) := by
  refine ⟨exists_shows h hkind, ?_⟩
  rintro slot key p hkey rfl q
  obtain ⟨front, back, hfill⟩ := parse_fill_of_parse h hkind
  obtain ⟨url, -, hurl, hpairs, -⟩ := hfill (key, p)
  obtain ⟨url', other, hurl', hpairs', hother, hkind'⟩ := hfill (key, q)
  refine ⟨other, hother, fun hshown => ?_, fun heq => ?_⟩
  · obtain ⟨_, shown, hread, hparse, hshows⟩ := exists_shows h hkind
    obtain ⟨_, shown', hread', hparse', hshows'⟩ := exists_shows hother hkind'
    cases hurl.symm.trans hread
    cases hurl'.symm.trans hread'
    rw [hshown] at hparse'
    cases hparse.symm.trans hparse'
    have hsame := hshows'.parameters.symm.trans hshows.parameters
    have hkept (value : List Char) :
        ((key, value) :: back).filter (·.1 ≠ "host".toList) =
          (key, value) :: back.filter (·.1 ≠ "host".toList) :=
      List.filter_cons_of_pos (decide_eq_true hkey)
    rw [hpairs, hpairs', List.filter_append, List.filter_append, hkept, hkept] at hsame
    exact (Prod.mk.inj (List.cons.inj (List.append_cancel_left hsame)).1).2
  · subst heq
    cases h.symm.trans hother
    rfl

/-- A password in the login, and one in a parameter of its own, of a URL for a socket. -/
theorem redacted_shows_parameters_socket :
    let slot : Slot :=
      { front := "PostgreSQL+Unix://nar:x@db/run/pg/index".toList
        before := "n=1&".toList
        behind := "#top".toList
        unmarked := by decide
        opened := .inr ⟨"n=1".toList, rfl, by decide⟩
        closed := .inr ⟨'#', "top".toList, rfl, by decide⟩ }
    let s := "PostgreSQL+Unix://nar:x@db/run/pg/index?n=1&password=se%26cret#top".toList
    ∃ target, Target.parse s = .ok target ∧ target.kind = .postgres ∧
      target.redacted =
        "postgresql://nar:***@db/index?n=1&password=se%26cret&host=%2Frun%2Fpg#top".toList ∧
      (∃ url shown, Url.parse s = .ok url ∧ Url.parse target.redacted = .ok shown ∧
        Shows url shown) ∧
      s = slot.fill ("password".toList, "se&cret".toList) ∧
      ∃ other, Target.parse (slot.fill ("password".toList, "x".toList)) = .ok other ∧
        other.redacted ≠ target.redacted := by
  intro slot s
  let target : Target :=
    { kind := .postgres
      dsn := "postgresql://nar:x@db/index?n=1&password=se%26cret&host=%2Frun%2Fpg#top".toList }
  have htarget : Target.parse s = .ok target := toOption_eq_some_iff.1 (by decide +kernel)
  have hfill : s = slot.fill ("password".toList, "se&cret".toList) := by decide +kernel
  obtain ⟨hshows, hother⟩ := redacted_shows_parameters htarget rfl
  obtain ⟨other, hparse, hiff⟩ := hother slot _ _ (by decide) hfill "x".toList
  have hdiffers : "x".toList ≠ "se&cret".toList := by decide
  exact ⟨target, htarget, rfl, by decide +kernel, hshows, hfill, other, hparse,
    mt hiff.1 hdiffers⟩

/-- The password that the driver takes from a parameter is shown as it is, of a URL for TCP and of
one for a socket: two texts with different ones are told apart. -/
theorem password_parameter_shown :
    (∃ target other,
      Target.parse "postgres://db/index?password=secret".toList = .ok target ∧
        Target.parse "postgres://db/index?password=other".toList = .ok other ∧
        target.redacted = "postgres://db/index?password=secret".toList ∧
        target.redacted ≠ other.redacted) ∧
    ∃ target other,
      Target.parse "postgres+unix:///run/pg/index?password=secret".toList = .ok target ∧
        Target.parse "postgres+unix:///run/pg/index?password=other".toList = .ok other ∧
        target.redacted = "postgres:///index?password=secret&host=%2Frun%2Fpg".toList ∧
        target.redacted ≠ other.redacted := by
  refine ⟨⟨{ kind := .postgres, dsn := "postgres://db/index?password=secret".toList },
      { kind := .postgres, dsn := "postgres://db/index?password=other".toList },
      toOption_eq_some_iff.1 (by decide +kernel), toOption_eq_some_iff.1 (by decide +kernel),
      by decide +kernel, by decide +kernel⟩,
    ⟨{ kind := .postgres, dsn := "postgres:///index?password=secret&host=%2Frun%2Fpg".toList },
      { kind := .postgres, dsn := "postgres:///index?password=other&host=%2Frun%2Fpg".toList },
      toOption_eq_some_iff.1 (by decide +kernel), toOption_eq_some_iff.1 (by decide +kernel),
      by decide +kernel, by decide +kernel⟩⟩

end Postgres

end NarIndex.Target
