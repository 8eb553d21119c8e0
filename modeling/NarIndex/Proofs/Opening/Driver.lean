import NarIndex.Opening
import NarIndex.Proofs.Target.Redaction
import NarIndex.Proofs.Url.RoundTrip

/-!
# NarIndex.Proofs.Opening.Driver

The connection string of a target begins with a scheme of the target's own backend
(`exists_scheme_of_parse`), whatever spelling the URL has of it.  Read as a URL or looked at as a
text, it leads to the driver of that backend, so that a store is opened with the dialect of the
database behind it, and none is refused for being of another (`url_selects_driver`).
-/

namespace NarIndex.Opening

open NarIndex.Text NarIndex.Url NarIndex.Target

variable {s : List Char} {target : Target} {error : StoreError}

/-- The schemes of connection strings. -/
def dsnSchemes : Sql.Dialect → List (List Char)
  | .sqlite => ["sqlite".toList]
  | .postgres => ["postgres".toList, "postgresql".toList]
  | .mysql => ["mysql".toList]

/-- Whether all that looks at a URL or its target finds the same backend: the store in the URL, and
in the connection string, and the driver in the connection string, when it is read as a URL.  It has
no mark of a socket, and no file but with SQLite. -/
structure SelectsBackend (s : List Char) (target : Target) : Prop where
  url : detectKind s = .ok target.kind
  dsn : detectKind target.dsn = .ok target.kind
  unmarked : ¬"+unix".toList <:+: Target.scheme target.dsn
  file : target.file ≠ none → target.kind = .sqlite
  driver : ∀ url, Url.parse target.dsn = .ok url → driver? url.scheme = some target.kind

/-! ## connection strings -/

/-- The scheme of a connection string is one of its backend, for the store and for the driver. -/
theorem of_mem_dsnSchemes {kind : Sql.Dialect} {base : List Char} (h : base ∈ dsnSchemes kind) :
    (':' ∉ base ∧ '+' ∉ base) ∧ toLower base = base ∧ kindOfScheme? base = some kind ∧
      driver? base = some kind := by
  have hall : ∀ kind ∈ [Sql.Dialect.sqlite, .postgres, .mysql], ∀ base ∈ dsnSchemes kind,
      (':' ∉ base ∧ '+' ∉ base) ∧ toLower base = base ∧ kindOfScheme? base = some kind ∧
        driver? base = some kind := by decide
  exact hall kind (by cases kind <;> decide) base h

theorem isPlainScheme_of_dsnScheme {kind : Sql.Dialect} {base : List Char}
    (h : base ∈ dsnSchemes kind) : IsPlainScheme base := by
  cases kind with
  | sqlite =>
    cases List.mem_singleton.1 h
    have hchars : "sqlite".toList.all isSchemeChar := by decide
    exact ⟨⟨'s', "qlite".toList, rfl, by decide⟩, List.all_eq_true.1 hchars, by decide⟩
  | postgres =>
    have hserver : ∀ s ∈ dsnSchemes .postgres, toLower s ∈ serverSchemes := by decide
    exact isPlainScheme_of_server (hserver base h)
  | mysql =>
    have hserver : ∀ s ∈ dsnSchemes .mysql, toLower s ∈ serverSchemes := by decide
    exact isPlainScheme_of_server (hserver base h)

/-- A URL is written with its scheme in front. -/
theorem exists_text_eq (url : Url) : ∃ rest, url.text = url.scheme ++ ':' :: rest := by
  exact ⟨url.location ++ marked '?' url.query ++ marked '#' url.fragment, by simp [Url.text]⟩

/-- The connection string of a target begins with a scheme of its backend, and only targets of
SQLite have a file. -/
theorem exists_scheme_of_parse (h : Target.parse s = .ok target) :
    detectKind s = .ok target.kind ∧ (target.file ≠ none → target.kind = .sqlite) ∧
      ∃ base rest, base ∈ dsnSchemes target.kind ∧ target.dsn = base ++ ':' :: rest := by
  obtain ⟨hkind, ⟨database, -, rfl⟩ | ⟨url, hurl, rfl⟩ | ⟨url, hurl, rfl⟩⟩ := of_parse h
  · refine ⟨hkind, fun _ => rfl, "sqlite".toList, ?_⟩
    cases database with
    | memory => exact ⟨_, List.mem_singleton_self _, rfl⟩
    | file path => exact ⟨_, List.mem_singleton_self _, rfl⟩
  · obtain ⟨scheme, hscheme⟩ := Postgres.scheme_of_connection hurl
    obtain ⟨rest, hrest⟩ := exists_text_eq url
    have hbase : Postgres.baseScheme scheme ∈ dsnSchemes .postgres := by
      rw [Postgres.baseScheme]
      split <;> decide
    exact ⟨hkind, fun hfile => absurd rfl hfile, url.scheme, rest, hscheme ▸ hbase, hrest⟩
  · obtain ⟨rest, hrest⟩ := exists_text_eq url
    have hbase : "mysql".toList ∈ dsnSchemes .mysql := by decide
    exact ⟨hkind, fun hfile => absurd rfl hfile, url.scheme, rest,
      MySql.scheme_of_connection hurl ▸ hbase, hrest⟩

/-! ## errors -/

/-- Only a scheme that is none of the drivers' is not told. -/
theorem detectKind_eq_error (h : detectKind s = .error error) :
    error = .unsupportedDriver (String.ofList (Target.scheme s)) := by
  rw [detectKind] at h
  split at h
  · contradiction
  · exact (Except.error.inj h).symm

theorem scheme_of_notMem (h : ':' ∉ s) : Target.scheme s = [] := by
  have hcut : cut? ':' s = none := by simpa [cut?] using cut?_append (s := []) h
  rw [Target.scheme, hcut]

/-- A URL that cannot be read is invalid. -/
theorem exists_invalidUrl_of_readUrl (h : readUrl s = .error error) :
    ∃ reason, error = .invalidUrl reason := by
  rw [readUrl] at h
  split at h
  · contradiction
  · exact ⟨_, (Except.error.inj h).symm⟩

/-- A text that leads to no target has no scheme of a backend, or is not a URL of the backend it
has. -/
theorem cases_of_parse_eq_error (h : Target.parse s = .error error) :
    detectKind s = .error error ∨ ∃ reason, error = .invalidUrl reason := by
  rw [Target.parse] at h
  rcases bind_eq_error h with h | ⟨kind, -, h⟩
  · exact .inl h
  refine .inr ?_
  cases kind with
  | sqlite =>
    rcases bind_eq_error h with h | ⟨database, -, h⟩
    · rw [SqliteDatabase.ofUrl] at h
      split at h
      · exact ⟨_, (Except.error.inj h).symm⟩
      · split at h
        · contradiction
        · exact ⟨_, (Except.error.inj h).symm⟩
    · contradiction
  | postgres =>
    rcases bind_eq_error h with h | ⟨url, -, h⟩
    · rcases bind_eq_error h with h | ⟨url, -, h⟩
      · exact exists_invalidUrl_of_readUrl h
      · split at h
        · split at h
          · contradiction
          · exact ⟨_, (Except.error.inj h).symm⟩
        · contradiction
    · contradiction
  | mysql =>
    rcases bind_eq_error h with h | ⟨url, -, h⟩
    · rcases bind_eq_error h with h | ⟨url, -, h⟩
      · exact exists_invalidUrl_of_readUrl h
      · split at h
        · contradiction
        · exact ⟨_, (Except.error.inj h).symm⟩
    · contradiction

/-! ## opening -/

/-- A target is never of another backend than its own, and its store is of that one. -/
theorem openTarget_self (around : Surroundings) (target : Target) (settings : PoolSettings) :
    (∀ reason, openTarget around target.kind target settings ≠ .error (.config reason)) ∧
      ∀ opened, openTarget around target.kind target settings = .ok opened →
        opened.kind = target.kind := by
  rw [openTarget, if_neg fun hne => hne rfl]
  cases makeDirectory around target with
  | error obstacle => simp
  | ok around =>
    dsimp only
    cases connect around target.dsn with
    | error source => simp
    | ok _ => simp

/-- What is parsed selects the backend that its scheme names. -/
theorem selectsBackend_of_parse (h : Target.parse s = .ok target) : SelectsBackend s target := by
  obtain ⟨hkind, hfile, base, rest, hbase, hdsn⟩ := exists_scheme_of_parse h
  obtain ⟨⟨hcolon, hplus⟩, hlower, hstore, hdriver⟩ := of_mem_dsnSchemes hbase
  have hscheme : Target.scheme target.dsn = base := by
    rw [hdsn, scheme_append hcolon, hlower]
  refine ⟨hkind, ?_, fun hunix => ?_, hfile, fun url hurl => ?_⟩
  · rw [detectKind, hscheme, hstore]
  · exact hplus (hscheme ▸ hunix.subset List.mem_cons_self)
  · rw [hdsn] at hurl
    rw [scheme_of_parse (isPlainScheme_of_dsnScheme hbase) hurl, hlower, hdriver]

/-- A URL selects its driver.  Its store and the driver that takes its connection string are of the
backend that its scheme names, so that opening it never meets the store of another one.  A scheme
that names none is refused, in lower case, before anything else of the URL is looked at. -/
theorem url_selects_driver (s : List Char) :
    (∀ target, Target.parse s = .ok target → SelectsBackend s target) ∧
    (∀ around settings,
      (∀ reason, openUrl around (String.ofList s) settings ≠ .error (.config reason)) ∧
      ∀ opened, openUrl around (String.ofList s) settings = .ok opened →
        detectKind s = .ok opened.kind) ∧
    ∀ error, detectKind s = .error error →
      Target.parse s = .error error ∧
      (':' ∉ s → error = .unsupportedDriver "") ∧
      ∀ front rest, s = front ++ ':' :: rest → ':' ∉ front →
        error = .unsupportedDriver (String.ofList (toLower front)) := by
  refine ⟨fun target => selectsBackend_of_parse, fun around settings => ?_,
    fun error h => ⟨?_, fun hs => ?_, ?_⟩⟩
  · rw [openUrl, String.toList_ofList]
    cases h : Target.parse s with
    | error error =>
      refine ⟨fun reason hreason => ?_, fun opened hopened => by contradiction⟩
      cases hreason
      rcases cases_of_parse_eq_error h with h | ⟨reason, h⟩
      · cases detectKind_eq_error h
      · cases h
    | ok target =>
      obtain ⟨hconfig, hopened⟩ := openTarget_self around target settings
      exact ⟨hconfig, fun opened h' => hopened opened h' ▸ (selectsBackend_of_parse h).url⟩
  · rw [Target.parse, h]
    rfl
  · rw [detectKind_eq_error h, scheme_of_notMem hs]
  · rintro front rest rfl hcolon
    rw [detectKind_eq_error h, scheme_append hcolon]

/-- A socket of PostgreSQL, its scheme in mixed case, and a scheme that names no backend. -/
theorem url_selects_driver_mixed_case :
    (∃ target, Target.parse "PostgreSQL+Unix:///run/pg/index".toList = .ok target ∧
      target.dsn = "postgresql:///index?host=%2Frun%2Fpg".toList ∧
      SelectsBackend "PostgreSQL+Unix:///run/pg/index".toList target) ∧
    Target.parse " SQLite:index.db".toList = .error (.unsupportedDriver " sqlite") := by
  let target : Target :=
    { kind := .postgres, dsn := "postgresql:///index?host=%2Frun%2Fpg".toList }
  have htarget : Target.parse "PostgreSQL+Unix:///run/pg/index".toList = .ok target :=
    toOption_eq_some_iff.1 (by decide +kernel)
  have hkind : detectKind " SQLite:index.db".toList = .error (.unsupportedDriver " sqlite") := rfl
  exact ⟨⟨target, htarget, rfl, (url_selects_driver _).1 target htarget⟩,
    ((url_selects_driver _).2.2 _ hkind).1⟩

end NarIndex.Opening
