import NarIndex.Proofs.Target.Redaction
import NarIndex.Proofs.Target.SocketPath
import NarIndex.Proofs.Url.Form
import NarIndex.Proofs.Url.RoundTrip

/-!
# NarIndex.Proofs.Target.Postgres

The connection strings of PostgreSQL.  Read again, the one of a URL for a socket differs from that
URL in its scheme, in its path, which is the database alone, and in the `host` parameter, which
names the directory of the socket (`movesSocket_moveSocket`, `parse_unix`).
-/

namespace NarIndex.Target.Postgres

open NarIndex.Text NarIndex.Url

variable {base scheme rest : List Char} {url out : Url}

/-- The schemes of URLs for TCP. -/
def baseSchemes : List (List Char) :=
  ["postgres".toList, "postgresql".toList]

/-- The mark behind the scheme of URLs for a socket. -/
def unixMark : List Char :=
  "+unix".toList

/-- What the connection string of a URL for a socket says when it is read: all that the URL does,
but for the socket, which is moved from the path to the parameters. -/
structure MovesSocket (url out : Url) : Prop where
  scheme : url.scheme = out.scheme ++ unixMark
  username : out.username = url.username
  password : out.password = url.password
  host : out.host = url.host
  port : out.port = url.port
  fragment : out.fragment = url.fragment
  socket : ∃ directory database, url.path.text = directory ++ '/' :: database ∧ '/' ∉ database ∧
    out.path = .rooted [database] ∧
    out.pairs = url.pairs.filter (·.1 ≠ "host".toList) ++ [("host".toList, cleanPath directory)]

/-! ## schemes -/

/-- The base schemes are those of PostgreSQL, with `+unix` or without. -/
theorem kindOfScheme?_eq (hbase : base ∈ baseSchemes)
    (hs : toLower scheme ∈ [base, base ++ unixMark]) :
    toLower scheme ∈ serverSchemes ∧ kindOfScheme? (toLower scheme) = some .postgres := by
  have hall : ∀ base ∈ baseSchemes, ∀ s ∈ [base, base ++ unixMark],
      s ∈ serverSchemes ∧ kindOfScheme? s = some .postgres := by decide
  exact hall base hbase _ hs

/-- A URL of PostgreSQL leads to its connection string. -/
theorem parse_eq (hbase : base ∈ baseSchemes) (hs : toLower scheme ∈ [base, base ++ unixMark])
    (rest : List Char) :
    Target.parse (scheme ++ ':' :: rest) =
      (connection (scheme ++ ':' :: rest)).map fun url =>
        { kind := .postgres, dsn := url.text } := by
  obtain ⟨hserver, hkind⟩ := kindOfScheme?_eq hbase hs
  have hcolon : ':' ∉ scheme := (isPlainScheme_of_server hserver).not_mem (by decide)
  rw [Target.parse, detectKind, scheme_append hcolon, hkind]
  cases connection (scheme ++ ':' :: rest) <;> rfl

/-- A URL with a base scheme is its connection. -/
theorem connection_of_base {s : List Char} (hbase : base ∈ baseSchemes) (hs : url.scheme = base)
    (h : Url.parse s = .ok url) : connection s = .ok url := by
  have hall : ∀ base ∈ baseSchemes,
      "+unix".toList.isSuffixOf base = false ∧ baseScheme base = base := by decide
  obtain ⟨hmark, hscheme⟩ := hall base hbase
  subst hs
  rw [connection, readUrl, h]
  simp only [bind, Except.bind, hmark, hscheme, Bool.false_eq_true, if_false]
  rfl

/-- A URL with `+unix` has its socket moved. -/
theorem connection_of_unix {s : List Char} (hbase : base ∈ baseSchemes)
    (hs : url.scheme = base ++ unixMark) (h : Url.parse s = .ok url) :
    connection s = match SocketPath.ofPath url.path.text with
      | .ok path => .ok (moveSocket { url with scheme := base } path)
      | .error problem => .error (invalid problem.message s) := by
  have hall : ∀ base ∈ baseSchemes, "+unix".toList.isSuffixOf (base ++ unixMark) = true ∧
      baseScheme (base ++ unixMark) = base := by decide
  obtain ⟨hmark, hscheme⟩ := hall base hbase
  rw [connection, readUrl, h]
  simp only [bind, Except.bind, hs, hmark, hscheme, if_true]
  cases SocketPath.ofPath url.path.text <;> rfl

/-- A scheme that names PostgreSQL is one for TCP, or has the mark of a socket behind one. -/
theorem exists_base_of_kind {s : List Char} (h : kindOfScheme? s = some .postgres) :
    ∃ base ∈ baseSchemes, s ∈ [base, base ++ unixMark] := by
  have hschemes : ∀ s ∈ ["postgres".toList, "postgresql".toList, "postgres+unix".toList,
      "postgresql+unix".toList], ∃ base ∈ baseSchemes, s ∈ [base, base ++ unixMark] := by decide
  rw [kindOfScheme?] at h
  split at h
  · contradiction
  · split at h
    · exact hschemes s ‹_›
    · split at h <;> contradiction

/-- What the target of a URL of PostgreSQL is built from: the URL itself, or the URL with its socket
moved. -/
theorem exists_of_parse {s : List Char} {target : Target} (h : Target.parse s = .ok target)
    (hkind : target.kind = .postgres) :
    ∃ base scheme rest url, base ∈ baseSchemes ∧ s = scheme ++ ':' :: rest ∧
      toLower scheme ∈ [base, base ++ unixMark] ∧ Url.parse s = .ok url ∧
      ((url.scheme = base ∧ target = { kind := .postgres, dsn := url.text }) ∨
        ∃ place, url.scheme = base ++ unixMark ∧ SocketPath.ofPath url.path.text = .ok place ∧
          target =
            { kind := .postgres, dsn := (moveSocket { url with scheme := base } place).text }) := by
  obtain ⟨hdetect, ⟨database, -, rfl⟩ | ⟨out, hout, rfl⟩ | ⟨out, -, rfl⟩⟩ := of_parse h
  · contradiction
  · obtain ⟨scheme, rest, rfl, hscheme⟩ := exists_scheme_of_detectKind hdetect
    obtain ⟨base, hbase, hmem⟩ := exists_base_of_kind hscheme
    have hplain := isPlainScheme_of_server (kindOfScheme?_eq hbase hmem).1
    obtain ⟨url, hread, -⟩ := bind_eq_ok hout
    have hurl := parse_of_readUrl hread
    have hread := scheme_of_parse hplain hurl
    refine ⟨base, scheme, rest, url, hbase, rfl, hmem, hurl, ?_⟩
    rcases List.mem_cons.1 hmem with hs | hs
    · rw [connection_of_base hbase (hread.trans hs) hurl] at hout
      cases hout
      exact .inl ⟨hread.trans hs, rfl⟩
    · have hunix := hread.trans (List.mem_singleton.1 hs)
      rw [connection_of_unix hbase hunix hurl] at hout
      split at hout
      · rename_i place hplace
        cases hout
        exact .inr ⟨place, hunix, hplace, rfl⟩
      · contradiction
  · contradiction

/-! ## moving the socket -/

section
variable {a : Authority} {place : SocketPath}

/-- The database is the only segment that is left of the path. -/
theorem moveSocket_eq (hplain : url.IsPlain) (ha : url.authority = some a)
    (h : SocketPath.ofPath url.path.text = .ok place) :
    Path.IsSegment place.database ∧ moveSocket url place =
      { url with
        path := .rooted [place.database]
        query := some (Form.write
          (url.pairs.filter (·.1 ≠ hostKey) ++ [(hostKey, place.socket)])) } := by
  obtain ⟨segments, hrooted⟩ := hplain.rooted (by simp [ha])
  obtain ⟨directory, hpath, hslash, -⟩ := ofPath_eq_ok_iff.1 h
  have hsegment : Path.IsSegment place.database :=
    Path.isSegment_of_text_eq (hplain.path segments hrooted) (hrooted ▸ hpath) hslash
  refine ⟨hsegment, ?_⟩
  simp only [moveSocket, withPath, withPairs, ha, hrooted, Path.root_of_isSegment hsegment]

/-- The URL with its socket moved is in the form in which URLs are read. -/
theorem isPlain_moveSocket (hplain : url.IsPlain) (ha : url.authority = some a)
    (h : SocketPath.ofPath url.path.text = .ok place) : (moveSocket url place).IsPlain := by
  obtain ⟨hsegment, hmoved⟩ := moveSocket_eq hplain ha h
  rw [hmoved]
  refine ⟨hplain.authority, fun segments hsegments => ?_, fun _ => ⟨_, rfl⟩, fun q hq => ?_,
    hplain.fragment⟩
  · cases hsegments
    exact List.forall_mem_singleton.2 hsegment
  · cases Option.mem_some_iff.1 hq
    exact Form.isEscaped_write _

theorem parse_text_moveSocket (hs : IsPlainScheme url.scheme)
    (hlower : toLower url.scheme = url.scheme) (hplain : url.IsPlain) (ha : url.authority = some a)
    (h : SocketPath.ofPath url.path.text = .ok place) :
    Url.parse (moveSocket url place).text = .ok (moveSocket url place) := by
  have hmoved := isPlain_moveSocket hplain ha h
  rw [(moveSocket_eq hplain ha h).2] at hmoved ⊢
  exact parse_text hmoved ha hs hlower

/-- The socket is moved from the path to the parameters, and all else stays. -/
theorem movesSocket_moveSocket (hplain : url.IsPlain) (ha : url.authority = some a)
    (hs : url.scheme = base ++ unixMark) (h : SocketPath.ofPath url.path.text = .ok place) :
    MovesSocket url (moveSocket { url with scheme := base } place) := by
  let based : Url := { url with scheme := base }
  have hbased : based.IsPlain := ⟨hplain.1, hplain.2, hplain.3, hplain.4, hplain.5⟩
  obtain ⟨directory, hpath, hslash, -, -, hsocket⟩ := ofPath_eq_ok_iff.1 h
  rw [(moveSocket_eq hbased ha h).2]
  refine ⟨hs, rfl, rfl, rfl, rfl, rfl, directory, place.database, hpath, hslash, rfl, ?_⟩
  rw [← hsocket]
  exact Form.read_write _

end

/-! ## targets -/

theorem isPlainScheme_of_base (hbase : base ∈ baseSchemes) :
    IsPlainScheme base ∧ toLower base = base := by
  have hall : ∀ base ∈ baseSchemes, toLower base = base ∧ base ∈ serverSchemes := by decide
  obtain ⟨hlower, hserver⟩ := hall base hbase
  exact ⟨isPlainScheme_of_server (hlower.symm ▸ hserver), hlower⟩

/-- A URL for a socket, `scheme://` and more, keeps in its connection string all that it says; it is
refused just if its path names no socket. -/
theorem parse_unix (hbase : base ∈ baseSchemes) (hs : toLower scheme = base ++ unixMark)
    (h : Url.parse (scheme ++ ':' :: '/' :: '/' :: rest) = .ok url) :
    (∃ out, Target.parse (scheme ++ ':' :: '/' :: '/' :: rest) =
        .ok { kind := .postgres, dsn := out.text } ∧
      NamesSocket url.path.text ∧ Url.parse out.text = .ok out ∧ out.scheme = base ∧
        MovesSocket url out) ∨
    ∃ message, Target.parse (scheme ++ ':' :: '/' :: '/' :: rest) = .error (.invalidUrl message) ∧
      ¬NamesSocket url.path.text := by
  have hmem : toLower scheme ∈ [base, base ++ unixMark] := by simp [hs]
  have hscheme := isPlainScheme_of_server (kindOfScheme?_eq hbase hmem).1
  obtain ⟨a, ha⟩ := exists_authority_of_parse hscheme h
  have hplain := isPlain_of_parse hscheme h
  have hunix : url.scheme = base ++ unixMark := (scheme_of_parse hscheme h).trans hs
  rw [parse_eq hbase hmem, connection_of_unix hbase hunix h, namesSocket_iff]
  cases hpath : SocketPath.ofPath url.path.text with
  | error problem => exact .inr ⟨_, rfl, by simp⟩
  | ok place =>
    obtain ⟨hbaseScheme, hlower⟩ := isPlainScheme_of_base hbase
    let based : Url := { url with scheme := base }
    have hbased : based.IsPlain := ⟨hplain.1, hplain.2, hplain.3, hplain.4, hplain.5⟩
    exact .inl ⟨moveSocket based place, rfl, ⟨place, rfl⟩,
      parse_text_moveSocket hbaseScheme hlower hbased ha hpath,
      scheme_withPath based place.database, movesSocket_moveSocket hplain ha hunix hpath⟩

/-- A connection string says what the URL does.  For a socket, `scheme://` and more, the socket is
moved to the parameters and all others are kept, and a URL is refused just if its path names no
socket; for TCP the connection string is the URL itself. -/
theorem parse_keeps_parameters (hbase : base ∈ baseSchemes) :
    (∀ scheme rest, toLower scheme = base ++ unixMark →
      let s := scheme ++ "://".toList ++ rest
      (∀ target, Target.parse s = .ok target → ∃ url out,
        Url.parse s = .ok url ∧ target = { kind := .postgres, dsn := out.text } ∧
        Url.parse target.dsn = .ok out ∧ out.scheme = base ∧ MovesSocket url out) ∧
      ∀ url, Url.parse s = .ok url →
        ((∃ target, Target.parse s = .ok target) ↔ NamesSocket url.path.text) ∧
        ((∃ message, Target.parse s = .error (.invalidUrl message)) ↔
          ¬NamesSocket url.path.text)) ∧
    ∀ scheme rest url, toLower scheme = base → Url.parse (scheme ++ ':' :: rest) = .ok url →
      Target.parse (scheme ++ ':' :: rest) = .ok { kind := .postgres, dsn := url.text } := by
  refine ⟨fun scheme rest hs => ?_, fun scheme rest url hs h => ?_⟩
  · have htext : scheme ++ "://".toList ++ rest = scheme ++ ':' :: '/' :: '/' :: rest := by simp
    rw [htext]
    refine ⟨fun target htarget => ?_, fun url h => ?_⟩
    · have hmem : toLower scheme ∈ [base, base ++ unixMark] := by simp [hs]
      obtain ⟨url, h⟩ : ∃ url, Url.parse (scheme ++ ':' :: '/' :: '/' :: rest) = .ok url := by
        rw [parse_eq hbase hmem] at htarget
        obtain ⟨out, hout, -⟩ := map_eq_ok htarget
        obtain ⟨url, hurl, -⟩ := bind_eq_ok hout
        exact ⟨url, parse_of_readUrl hurl⟩
      rcases parse_unix hbase hs h with ⟨out, hout, -, hparse, hscheme, hmoves⟩ | ⟨_, hout, -⟩
      · cases hout.symm.trans htarget
        exact ⟨url, out, h, rfl, hparse, hscheme, hmoves⟩
      · cases hout.symm.trans htarget
    · rcases parse_unix hbase hs h with ⟨out, hout, hnames, -⟩ | ⟨message, hout, hnames⟩
      · simp [hout, hnames]
      · simp [hout, hnames]
  · have hmem : toLower scheme ∈ [base, base ++ unixMark] := by simp [hs]
    have hscheme := isPlainScheme_of_server (kindOfScheme?_eq hbase hmem).1
    rw [parse_eq hbase hmem,
      connection_of_base hbase ((scheme_of_parse hscheme h).trans hs) h]
    rfl

/-- A login and a port, and `host` given twice among other parameters. -/
theorem parse_keeps_parameters_repeated :
    "postgresql".toList ∈ baseSchemes ∧
      toLower "PostgreSQL+Unix".toList = "postgresql".toList ++ unixMark ∧
      let s := "PostgreSQL+Unix://nar:a%40b@db:5433/run//pg/index?host=x&n=1&host=&n=%262".toList
      ∃ target url out, Target.parse s = .ok target ∧
        target.dsn =
          "postgresql://nar:a%40b@db:5433/index?n=1&n=%262&host=%2Frun%2Fpg".toList ∧
        Url.parse s = .ok url ∧ Url.parse target.dsn = .ok out ∧ MovesSocket url out := by
  have hbase : "postgresql".toList ∈ baseSchemes := by decide
  have hs : toLower "PostgreSQL+Unix".toList = "postgresql".toList ++ unixMark := by decide
  refine ⟨hbase, hs, ?_⟩
  intro s
  let target : Target :=
    { kind := .postgres
      dsn := "postgresql://nar:a%40b@db:5433/index?n=1&n=%262&host=%2Frun%2Fpg".toList }
  have htarget : Target.parse s = .ok target := toOption_eq_some_iff.1 (by decide +kernel)
  obtain ⟨url, out, hurl, -, hout, -, hmoves⟩ :=
    ((parse_keeps_parameters hbase).1 "PostgreSQL+Unix".toList
      "nar:a%40b@db:5433/run//pg/index?host=x&n=1&host=&n=%262".toList hs).1 target htarget
  exact ⟨target, url, out, htarget, rfl, hurl, hout, hmoves⟩

end NarIndex.Target.Postgres
