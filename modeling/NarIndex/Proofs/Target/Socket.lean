import NarIndex.Proofs.Target.MySql
import NarIndex.Proofs.Target.Postgres

/-!
# NarIndex.Proofs.Target.Socket

Sockets on their way from a database URL to the driver.  A parameter is decoded before it is written
into the connection string, but a path is not: a socket that the path names reaches the driver as it
is escaped there (`leadsTo_mySql`, `leadsTo_postgres`).  So the two ways to name a socket of MySQL
agree just if the socket has nothing to escape, and no segment that ends in an at sign, where the
host is filled in (`eq_of_filled_escape_iff`).
-/

namespace NarIndex.Target

open NarIndex.Text NarIndex.Url

variable {scheme s database name : List Char} {segments : List (List Char)} {set : Char → Bool}

/-! ## names -/

/-- The characters that never have to be escaped. -/
def isUnreserved (c : Char) : Bool :=
  c.isAlphanum || ['-', '.', '_', '~'].contains c

/-- Whether a text can be a segment of the path of a socket. -/
structure IsPlace (segment : List Char) : Prop where
  nonempty : segment ≠ []
  noSlash : '/' ∉ segment
  notDot : segment ≠ ['.']
  notDotDot : segment ≠ ['.', '.']

/-- Whether a text is the name of a database, of unreserved characters. -/
structure IsDatabase (database : List Char) : Prop extends IsPlace database where
  chars : ∀ c ∈ database, isUnreserved c

instance : DecidablePred IsPlace := fun segment =>
  decidable_of_iff (segment ≠ [] ∧ '/' ∉ segment ∧ segment ≠ ['.'] ∧ segment ≠ ['.', '.'])
    ⟨fun ⟨h₁, h₂, h₃, h₄⟩ => ⟨h₁, h₂, h₃, h₄⟩, fun ⟨h₁, h₂, h₃, h₄⟩ => ⟨h₁, h₂, h₃, h₄⟩⟩

instance : DecidablePred IsDatabase := fun database =>
  decidable_of_iff (IsPlace database ∧ database.all isUnreserved)
    ⟨fun ⟨h, hchars⟩ => ⟨h, by simpa using hchars⟩, fun h => ⟨h.toIsPlace, by simpa using h.chars⟩⟩

theorem toNat_lt_of_isUnreserved {c : Char} (h : isUnreserved c) : c.toNat < 0x80 := by
  rw [isUnreserved, Bool.or_eq_true, List.contains_iff_mem] at h
  rcases h with halphanum | hmark
  · unfold Char.isAlphanum Char.isAlpha Char.isUpper Char.isLower Char.isDigit at halphanum
    simp only [UInt32.le_iff_toNat_le, Bool.or_eq_true, Bool.and_eq_true, decide_eq_true_eq]
      at halphanum
    rcases halphanum with (⟨-, h⟩ | ⟨-, h⟩) | ⟨-, h⟩ <;>
      exact Nat.lt_of_le_of_lt h (by decide)
  · have hmarks : ∀ c ∈ ['-', '.', '_', '~'], c.toNat < 0x80 := by simp
    exact hmarks c hmark

/-- Characters that are not reserved stay as they are in a path. -/
theorem not_inPathSet_of_isUnreserved {c : Char} (h : isUnreserved c) : inPathSet c = false := by
  have hascii := forall_ascii (P := fun c => isUnreserved c → inPathSet c = false)
    (by decide +kernel)
  exact hascii c (toNat_lt_of_isUnreserved h) h

/-- A database is a segment as it is: all else could be escaped. -/
theorem IsDatabase.isSegment (h : IsDatabase database) : Path.IsSegment database := by
  let set (c : Char) : Bool := !isUnreserved c && c != '/'
  have hset : Path.IsEncoding set := by
    refine ⟨fun c hin => ?_, by decide, by decide⟩
    have hreserved : isUnreserved c = false := Bool.eq_false_iff.2 fun hc =>
      Bool.false_ne_true ((not_inPathSet_of_isUnreserved hc).symm.trans hin)
    have hslash : c ≠ '/' := by
      rintro rfl
      exact absurd hin (by decide)
    simp [set, hreserved, hslash]
  have hescaped : IsEscaped set database := fun c hc =>
    ⟨toNat_lt_of_isUnreserved (h.chars c hc), by simp [set, h.chars c hc]⟩
  have hsegment := Path.isSegment_escape hset h.noSlash h.notDot h.notDotDot
  rwa [hescaped.escape] at hsegment

/-- A text of unreserved characters has nothing to escape, and nothing that ends a segment. -/
theorem isEscaped_of_isUnreserved (h : ∀ c ∈ name, isUnreserved c) :
    (IsEscaped inPathSet name ∧ '/' ∉ name) ∧ '@' ∉ name := by
  refine ⟨⟨fun c hc => ?_, fun hmem => absurd (h '/' hmem) (by decide)⟩, fun hmem =>
    absurd (h '@' hmem) (by decide)⟩
  exact ⟨toNat_lt_of_isUnreserved (h c hc), not_inPathSet_of_isUnreserved (h c hc)⟩

/-! ## paths -/

/-- Whether a segment of a path names a place, as it is escaped. -/
structure IsName (piece : List Char) : Prop extends Path.IsSegment piece where
  nonempty : piece ≠ []

/-- Escaped places are names. -/
theorem isName_escape (hset : Path.IsEncoding set)
    (hplaces : ∀ segment ∈ segments, IsPlace segment) :
    ∀ piece ∈ segments.map (escape set), IsName piece := by
  refine List.forall_mem_map.2 fun segment hsegment => ?_
  obtain ⟨hne, hslash, hdot, hdotDot⟩ := hplaces segment hsegment
  exact ⟨Path.isSegment_escape hset hslash hdot hdotDot, escape_ne_nil hne⟩

/-- A database URL with a socket and a database in its path. -/
def unixUrl (scheme socket database : List Char) : List Char :=
  scheme ++ "://".toList ++ socket ++ '/' :: database

/-- A URL without a host. -/
def hostless (scheme : List Char) (segments : List (List Char)) : Url :=
  { scheme, authority := some { host := .name [] }, path := .rooted segments }

/-- The segments of a path with a name behind it, as they are read. -/
def segmentsOf (pieces : List (List Char)) (name : List Char) : List (List Char) :=
  Path.resolve (pieces ++ [name])

/-- The URL of a socket has the places and the database as its path. -/
theorem unixUrl_eq (scheme name : List Char) (pieces : List (List Char)) :
    unixUrl scheme (Path.rooted pieces).text name =
      scheme ++ ':' :: '/' :: '/' :: (Path.rooted (pieces ++ [name])).text := by
  simp [unixUrl, Path.text]

section
variable {pieces : List (List Char)} (hpieces : ∀ piece ∈ pieces, IsName piece)
include hpieces

/-- Names lead nowhere else. -/
theorem isResolved_of_isName : Path.IsResolved pieces :=
  fun piece hpiece => (hpieces piece hpiece).toIsSegment

/-- A socket and a database behind it are found as they are written. -/
theorem ofPath_segmentsOf (hne : pieces ≠ []) (hdatabase : IsDatabase database) :
    SocketPath.ofPath (Path.rooted (segmentsOf pieces database)).text =
      .ok ⟨(Path.rooted pieces).text, database⟩ := by
  have hresolved : Path.IsResolved (pieces ++ [database]) :=
    List.forall_mem_append.2
      ⟨isResolved_of_isName hpieces, List.forall_mem_singleton.2 hdatabase.isSegment⟩
  have hplain : ∀ piece ∈ pieces, piece ≠ [] ∧ '/' ∉ piece ∧ piece ≠ ['.'] := by
    intro piece hpiece
    have hname := hpieces piece hpiece
    refine ⟨hname.nonempty, hname.noSlash, fun hdot => ?_⟩
    exact absurd hname.notDot (by simp [hdot, Path.isDot, Path.unescapePoints])
  rw [segmentsOf, Path.resolve_of_isResolved hresolved]
  refine ofPath_eq_ok_iff.2 ⟨(Path.rooted pieces).text, by simp [Path.text],
    hdatabase.noSlash, hdatabase.nonempty, ?_, ?_⟩
  · rwa [Path.text, segments_flatMap hne hplain]
  · rw [Path.text, cleanPath_flatMap hne hplain]

/-- A name that is left out, or that is a dot segment, leaves no database. -/
theorem ofPath_segmentsOf_dots (hname : name ∈ [[], ['.'], ['.', '.']]) :
    SocketPath.ofPath (Path.rooted (segmentsOf pieces name)).text = .error .noDatabase := by
  have hdots : name = [] ∨ Path.isDot name ∨ Path.isDotDot name := by
    simp only [List.mem_cons, List.not_mem_nil, or_false] at hname
    rcases hname with rfl | rfl | rfl
    · exact .inl rfl
    · exact .inr (.inl (by simp [Path.isDot, Path.unescapePoints]))
    · exact .inr (.inr (by simp [Path.isDotDot, Path.unescapePoints]))
  obtain ⟨front, hfront⟩ := Path.exists_resolve_append (isResolved_of_isName hpieces) hdots
  have htext : (Path.rooted (front ++ [[]])).text = (Path.rooted front).text ++ '/' :: [] := by
    simp [Path.text]
  rw [segmentsOf, hfront, htext, ofPath_append List.not_mem_nil, if_pos rfl]

/-- The URL of a socket is read with all its segments. -/
theorem parse_unixUrl (hs : IsPlainScheme scheme) (hname : ∀ c ∈ name, isUnreserved c) :
    Url.parse (unixUrl scheme (Path.rooted pieces).text name) =
      .ok (hostless (toLower scheme) (segmentsOf pieces name)) := by
  have hplain : Authority.IsPlain { host := .name [] } :=
    ⟨by simp [IsEscaped], by simp, by simp [Host.IsPlain, IsEscaped], by simp, by simp⟩
  have hescaped : ∀ segment ∈ pieces ++ [name], IsEscaped inPathSet segment ∧ '/' ∉ segment :=
    List.forall_mem_append.2 ⟨(isResolved_of_isName hpieces).escaped,
      List.forall_mem_singleton.2 (isEscaped_of_isUnreserved hname).1⟩
  have hnone (set : Char → Bool) : ∀ t ∈ (none : Option (List Char)), IsEscaped set t := by simp
  rw [unixUrl_eq]
  simpa [marked, Authority.text, Authority.userinfo, Host.text, hostless, segmentsOf] using
    parse_components hs hplain hescaped (hnone _) (hnone _)

end

/-! ## at signs in a path -/

/-- The segments of a path with the host filled in behind the first one that ends in an at sign. -/
def fillSegments : List (List Char) → List (List Char)
  | [] => []
  | segment :: more =>
    if segment.getLast? = some '@' then (segment ++ MySql.localhost) :: more
    else segment :: fillSegments more

theorem fillSegments_ne_nil {pieces : List (List Char)} (h : pieces ≠ []) :
    fillSegments pieces ≠ [] := by
  obtain ⟨piece, more, rfl⟩ := List.exists_cons_of_ne_nil h
  rw [fillSegments]
  split <;> exact List.cons_ne_nil _ _

/-- A name that ends in an at sign stays a name with the host behind it. -/
theorem IsName.append_localhost {piece : List Char} (h : IsName piece)
    (hend : piece.getLast? = some '@') : IsName (piece ++ MySql.localhost) := by
  have hlocal : ∀ c ∈ MySql.localhost, isUnreserved c := by
    simpa using (by decide : MySql.localhost.all isUnreserved)
  obtain ⟨⟨hescaped, hslash⟩, -⟩ := isEscaped_of_isUnreserved hlocal
  have hat : '@' ∈ piece ++ MySql.localhost := List.mem_append_left _ (List.mem_of_getLast? hend)
  have hmem := Path.mem_unescapePoints (by decide) hat
  refine ⟨⟨fun c hc => (List.mem_append.1 hc).elim (h.escaped c) (hescaped c), ?_,
    Bool.eq_false_iff.2 fun hdot => ?_, Bool.eq_false_iff.2 fun hdotDot => ?_⟩,
    List.append_ne_nil_of_left_ne_nil h.nonempty _⟩
  · exact fun hmem => (List.mem_append.1 hmem).elim h.noSlash hslash
  · rw [beq_iff_eq.1 hdot] at hmem
    exact absurd hmem (by decide)
  · rw [beq_iff_eq.1 hdotDot] at hmem
    exact absurd hmem (by decide)

theorem isName_fillSegments {pieces : List (List Char)} (hpieces : ∀ piece ∈ pieces, IsName piece) :
    ∀ piece ∈ fillSegments pieces, IsName piece := by
  induction pieces with
  | nil => exact hpieces
  | cons piece more ih =>
    obtain ⟨hpiece, hmore⟩ := List.forall_mem_cons.1 hpieces
    rw [fillSegments]
    split
    · exact List.forall_mem_cons.2 ⟨hpiece.append_localhost ‹_›, hmore⟩
    · exact List.forall_mem_cons.2 ⟨hpiece, ih hmore⟩

/-- What stands before the slash behind a segment is left alone if it does not end in an at sign. -/
theorem filled_segment {piece : List Char} (hslash : '/' ∉ piece) (hend : piece.getLast? ≠ some '@')
    (rest : List Char) :
    MySql.filled (piece ++ '/' :: rest) = piece ++ MySql.filled ('/' :: rest) := by
  induction piece with
  | nil => rfl
  | cons c piece ih =>
    obtain ⟨-, hmore⟩ := not_or.1 (mt List.mem_cons.2 hslash)
    have hbegins : ¬['@', '/'] <+: c :: (piece ++ '/' :: rest) := by
      cases piece with
      | nil =>
        have hc : '@' ≠ c := fun heq => hend (heq ▸ rfl)
        simp [List.cons_prefix_cons, hc]
      | cons d piece =>
        have hd : '/' ≠ d := fun heq => hmore (heq ▸ List.mem_cons_self)
        simp [List.cons_prefix_cons, hd]
    have hbehind : piece.getLast? ≠ some '@' := by
      cases piece with
      | nil => simp
      | cons d piece => rwa [List.getLast?_cons_cons] at hend
    rw [List.cons_append, MySql.filled, replaceFirst_cons_of_not_begins hbegins]
    exact congrArg (c :: ·) (ih hmore hbehind)

/-- The host is filled in behind a segment of the path. -/
theorem filled_path {pieces : List (List Char)} (hpieces : ∀ piece ∈ pieces, '/' ∉ piece)
    (hname : '@' ∉ name) :
    MySql.filled ((Path.rooted pieces).text ++ '/' :: name) =
      (Path.rooted (fillSegments pieces)).text ++ '/' :: name := by
  have hplain : MySql.filled ('/' :: name) = '/' :: name :=
    replaceFirst_of_not_occurs fun hoccurs =>
      absurd (hoccurs.subset List.mem_cons_self) (by simpa using hname)
  -- Whatever is behind a segment begins with a slash, so that its own end decides.
  induction pieces with
  | nil => exact hplain
  | cons piece more ih =>
    obtain ⟨hpiece, hmore⟩ := List.forall_mem_cons.1 hpieces
    obtain ⟨rest, hrest⟩ : ∃ rest, (Path.rooted more).text ++ '/' :: name = '/' :: rest := by
      cases more <;> exact ⟨_, rfl⟩
    have htext : (Path.rooted (piece :: more)).text ++ '/' :: name =
        ['/'] ++ (piece ++ '/' :: rest) := by
      rw [← hrest]
      simp [Path.text]
    rw [htext, MySql.filled_of_notMem (by decide), fillSegments]
    by_cases hend : piece.getLast? = some '@'
    · obtain ⟨front, rfl⟩ := List.getLast?_eq_some_iff.1 hend
      have hfront : '/' ∉ front := fun hmem => hpiece (List.mem_append_left _ hmem)
      have hfilled : MySql.filled (front ++ (['@'] ++ '/' :: rest)) = _ :=
        MySql.filled_at hfront rest
      rw [if_pos hend, List.append_assoc, hfilled]
      simpa [Path.text] using hrest.symm
    · rw [if_neg hend, filled_segment hpiece hend, ← hrest, ih hmore]
      simp [Path.text]

/-- Filling the host into the URL of a socket puts it into the places. -/
theorem filled_unixUrl {pieces : List (List Char)} (hpieces : ∀ piece ∈ pieces, '/' ∉ piece)
    (hs : IsPlainScheme scheme) (hname : ∀ c ∈ name, isUnreserved c) :
    MySql.filled (unixUrl scheme (Path.rooted pieces).text name) =
      unixUrl scheme (Path.rooted (fillSegments pieces)).text name := by
  have hat : '@' ∉ scheme ++ "://".toList := by simp [hs.not_mem (c := '@') (by decide)]
  have hbehind := MySql.filled_of_notMem hat ((Path.rooted pieces).text ++ '/' :: name)
  rw [filled_path hpieces (isEscaped_of_isUnreserved hname).2] at hbehind
  simpa [unixUrl] using hbehind

/-- To fill in the host makes a text longer. -/
theorem length_lt_length_filled {s : List Char} (h : ['@', '/'] <:+: s) :
    s.length < (MySql.filled s).length := by
  induction s with
  | nil => simp at h
  | cons c s ih =>
    by_cases hbegins : ['@', '/'] <+: c :: s
    · obtain ⟨rest, hrest⟩ := hbegins
      have hfilled : MySql.filled (c :: s) = '@' :: (MySql.localhost ++ '/' :: rest) := by
        rw [← hrest]
        exact MySql.filled_at List.not_mem_nil rest
      have hlocal : 0 < MySql.localhost.length := by decide
      rw [hfilled, ← hrest]
      simpa using hlocal
    · have hinfix := (List.infix_cons_iff.1 h).resolve_left hbegins
      rw [MySql.filled, replaceFirst_cons_of_not_begins hbegins]
      exact Nat.succ_lt_succ (ih hinfix)

/-! ## connection strings -/

/-- A connection string for a database with a single parameter. -/
def connectionFor (scheme : List Char) (host : Host) (database : List Char)
    (parameter : Form.Pair) : Url :=
  { scheme, authority := some { host }, path := .rooted [database]
    query := some (Form.write [parameter]) }

/-- Whether a database URL leads to a target, with a single parameter in its connection string. -/
def LeadsTo (s : List Char) (target : Target) (parameter : Form.Pair) : Prop :=
  Target.parse s = .ok target ∧
    ∃ out, Url.parse target.dsn = .ok out ∧ out.pairs = [parameter]

instance (s : List Char) (target : Target) (parameter : Form.Pair) :
    Decidable (LeadsTo s target parameter) :=
  decidable_of_iff ((Target.parse s).toOption = some target ∧
      (Url.parse target.dsn).toOption.map pairs = some [parameter])
    (by simp [LeadsTo, toOption_eq_some_iff])

theorem pairs_connectionFor (scheme : List Char) (host : Host) (database : List Char)
    (parameter : Form.Pair) : (connectionFor scheme host database parameter).pairs = [parameter] :=
  Form.read_write [parameter]

/-- A connection to a socket is read as it is written. -/
theorem parse_connectionFor {host : Host} {parameter : Form.Pair} (hs : scheme ∈ serverSchemes)
    (hhost : host.IsPlain) (hdatabase : IsDatabase database) :
    Url.parse (connectionFor scheme host database parameter).text =
      .ok (connectionFor scheme host database parameter) := by
  have hlower : ∀ s ∈ serverSchemes, toLower s = s := by decide
  have hscheme : toLower scheme = scheme := hlower scheme hs
  have hplain : Authority.IsPlain { host } :=
    ⟨by simp [IsEscaped], by simp, hhost, by simp, by simp⟩
  refine parse_text ⟨fun a ha => ?_, fun segments hsegments => ?_, fun _ => ⟨_, rfl⟩,
    fun q hq => ?_, by simp [connectionFor]⟩ rfl
    (isPlainScheme_of_server (hscheme.symm ▸ hs)) hscheme
  · cases Option.mem_some_iff.1 ha
    exact hplain
  · cases hsegments
    exact List.forall_mem_singleton.2 hdatabase.isSegment
  · cases Option.mem_some_iff.1 hq
    exact Form.isEscaped_write _

/-- The connection string of MySQL for a socket. -/
def mySqlFor (database socket : List Char) : List Char :=
  "mysql://localhost/".toList ++ database ++ "?socket=".toList ++ Form.writeText socket

/-- The connection string of PostgreSQL for the directory of a socket. -/
def postgresFor (database socket : List Char) : List Char :=
  "postgres:///".toList ++ database ++ "?host=".toList ++ Form.writeText socket

/-- A connection is written with its database and its one parameter. -/
theorem text_connectionFor (scheme : List Char) (host : Host) (database : List Char)
    (parameter : Form.Pair) :
    (connectionFor scheme host database parameter).text =
      scheme ++ "://".toList ++ host.text ++ '/' :: database ++ '?' :: Form.write [parameter] := by
  simp [connectionFor, Url.text, location, Authority.text, Authority.userinfo, Path.text, marked]

theorem write_singleton (key value : List Char) :
    Form.write [(key, value)] = Form.writeText key ++ '=' :: Form.writeText value :=
  rfl

/-- This is the connection string of MySQL. -/
theorem text_mySqlFor (database socket : List Char) :
    (connectionFor "mysql".toList (.name MySql.localhost) database (MySql.socketKey, socket)).text =
      mySqlFor database socket := by
  have hkey : Form.writeText MySql.socketKey = "socket".toList := by decide +kernel
  rw [text_connectionFor, write_singleton, hkey]
  unfold mySqlFor MySql.localhost
  simp [Host.text]

theorem text_postgresFor (database socket : List Char) :
    (connectionFor "postgres".toList (.name []) database (Postgres.hostKey, socket)).text =
      postgresFor database socket := by
  have hkey : Form.writeText Postgres.hostKey = "host".toList := by decide +kernel
  rw [text_connectionFor, write_singleton, hkey]
  unfold postgresFor
  simp [Host.text]

/-- Different sockets have different connection strings. -/
theorem mySqlFor_injective {database s t : List Char}
    (h : mySqlFor database s = mySqlFor database t) : s = t := by
  have hwritten : Form.writeText s = Form.writeText t := List.append_cancel_left h
  rw [← Form.readText_writeText s, hwritten, Form.readText_writeText]

/-! ## sockets in a parameter -/

/-- Without a login and other parameters, only the database and the socket are left. -/
theorem connectionTo_eq (url : Url) (s : List Char) (hdatabase : IsDatabase database)
    (hlogin : url.username = [] ∧ url.password = none)
    (hkept : url.pairs.filter MySql.isKept = []) :
    MySql.connectionTo url ⟨database, some s⟩ =
      connectionFor "mysql".toList (.name MySql.localhost) database (MySql.socketKey, s) := by
  have hparameters : MySql.parameters url (some s) = [(MySql.socketKey, s)] := by
    simp [MySql.parameters, hkept]
  simp only [MySql.connectionTo, MySql.address_some, hparameters, hlogin,
    Path.root_of_isSegment hdatabase.isSegment]
  rfl

/-- No host is filled in, for there is no at sign. -/
theorem filled_mySqlFor (hdatabase : IsDatabase database) (s : List Char) :
    MySql.filled (mySqlFor database s) = mySqlFor database s := by
  have hat : '@' ∉ mySqlFor database s := by
    have hname : '@' ∉ database := fun h => absurd (hdatabase.chars '@' h) (by decide)
    unfold mySqlFor
    simp [hname, Form.at_notMem_writeText]
  exact replaceFirst_of_not_occurs fun h => hat (h.subset List.mem_cons_self)

/-- A parameter for the socket is where the connection goes. -/
theorem ofUrl_connectionFor (hdatabase : IsDatabase database) (hs : s ≠ []) :
    MySql.Destination.ofUrl
      (connectionFor "mysql".toList (.name MySql.localhost) database (MySql.socketKey, s)) =
      .ok ⟨database, some s⟩ := by
  let out := connectionFor "mysql".toList (.name MySql.localhost) database (MySql.socketKey, s)
  have hscheme : out.scheme ≠ "mysql+unix".toList := by
    change "mysql".toList ≠ _
    decide
  have hpath : out.path.text.dropWhile (· == '/') = database :=
    Path.dropSlashes_text_singleton hdatabase.nonempty hdatabase.noSlash
  have hpairs : out.pairs = [(MySql.socketKey, s)] := pairs_connectionFor _ _ _ _
  have hsocket : MySql.namedSocket? out.pairs = some s := by
    simp [hpairs, MySql.namedSocket?, MySql.given?, Form.first?, Option.filter, hs]
  rw [MySql.Destination.ofUrl, if_neg hscheme, hpath, hsocket]

/-- A URL with a socket in a parameter is its own connection string. -/
theorem leadsTo_mySqlFor (hdatabase : IsDatabase database) (hs : s ≠ []) :
    LeadsTo (mySqlFor database s) { kind := .mysql, dsn := mySqlFor database s }
      (MySql.socketKey, s) := by
  let out := connectionFor "mysql".toList (.name MySql.localhost) database (MySql.socketKey, s)
  have hparse : Url.parse out.text = .ok out :=
    parse_connectionFor (by decide) MySql.isPlain_localhost hdatabase
  have htext : out.text = mySqlFor database s := text_mySqlFor database s
  have hout : MySql.connectionTo out ⟨database, some s⟩ = out := by
    have hpairs : out.pairs = [(MySql.socketKey, s)] := pairs_connectionFor _ _ _ _
    refine connectionTo_eq out s hdatabase ⟨rfl, rfl⟩ ?_
    rw [hpairs]
    rfl
  refine ⟨?_, out, htext ▸ hparse, pairs_connectionFor _ _ _ _⟩
  obtain ⟨rest, hrest⟩ : ∃ rest, mySqlFor database s = "mysql".toList ++ ':' :: rest :=
    ⟨_, rfl⟩
  have hconnection := MySql.connection_of_parse
    ((filled_mySqlFor hdatabase s).symm ▸ htext ▸ hparse)
  rw [ofUrl_connectionFor hdatabase hs] at hconnection
  rw [hrest] at hconnection ⊢
  rw [MySql.parse_eq (by decide), hconnection]
  simp only [Except.map, out, hout, htext, hrest]

/-! ## sockets in the path -/

section
variable {pieces : List (List Char)} (hpieces : ∀ piece ∈ pieces, IsName piece)
include hpieces

/-- The path form of MySQL is parsed by its path, with the host filled in. -/
theorem parse_mySql (hname : ∀ c ∈ name, isUnreserved c) :
    let s := unixUrl "mysql+unix".toList (Path.rooted pieces).text name
    let segments := segmentsOf (fillSegments pieces) name
    Target.parse s = match SocketPath.ofPath (Path.rooted segments).text with
      | .ok place => .ok
        { kind := .mysql
          dsn := (MySql.connectionTo (hostless "mysql+unix".toList segments)
            ⟨place.database, some place.socket⟩).text }
      | .error problem => .error (invalid problem.message s) := by
  intro s segments
  have hschemes : toLower "mysql+unix".toList = "mysql+unix".toList ∧
      toLower "mysql+unix".toList ∈ MySql.schemes := by decide
  have hs := MySql.isPlainScheme_of_schemes hschemes.2
  have hparse := parse_unixUrl (isName_fillSegments hpieces) hs hname
  rw [← filled_unixUrl (fun piece hpiece => (hpieces piece hpiece).noSlash) hs hname,
    hschemes.1] at hparse
  have hconnection := MySql.connection_of_parse hparse
  have hdestination : MySql.Destination.ofUrl (hostless "mysql+unix".toList segments) =
      (SocketPath.ofPath (Path.rooted segments).text).map
        fun place => ⟨place.database, some place.socket⟩ := by
    have hscheme : (hostless "mysql+unix".toList segments).scheme = "mysql+unix".toList := rfl
    have hpath : (hostless "mysql+unix".toList segments).path = .rooted segments := rfl
    rw [MySql.Destination.ofUrl, if_pos hscheme, hpath]
    cases SocketPath.ofPath (Path.rooted segments).text <;> rfl
  have htarget := MySql.parse_eq hschemes.2
    ('/' :: '/' :: (Path.rooted (pieces ++ [name])).text)
  rw [← unixUrl_eq, hconnection, hdestination] at htarget
  rw [htarget]
  cases SocketPath.ofPath (Path.rooted segments).text <;> rfl

theorem parse_postgres (hname : ∀ c ∈ name, isUnreserved c) :
    let s := unixUrl "postgres+unix".toList (Path.rooted pieces).text name
    let segments := segmentsOf pieces name
    Target.parse s = match SocketPath.ofPath (Path.rooted segments).text with
      | .ok place => .ok
        { kind := .postgres
          dsn := (Postgres.moveSocket (hostless "postgres".toList segments) place).text }
      | .error problem => .error (invalid problem.message s) := by
  intro s segments
  have hbase : "postgres".toList ∈ Postgres.baseSchemes := by decide
  have hunix : toLower "postgres+unix".toList = "postgres".toList ++ Postgres.unixMark := by decide
  have hmem : toLower "postgres+unix".toList ∈
      ["postgres".toList, "postgres".toList ++ Postgres.unixMark] := by decide
  have hs := isPlainScheme_of_server (Postgres.kindOfScheme?_eq hbase hmem).1
  have hconnection := Postgres.connection_of_unix hbase hunix (parse_unixUrl hpieces hs hname)
  have htarget := Postgres.parse_eq hbase hmem
    ('/' :: '/' :: (Path.rooted (pieces ++ [name])).text)
  rw [← unixUrl_eq, hconnection] at htarget
  rw [htarget]
  have hpath : (hostless (toLower "postgres+unix".toList) segments).path = .rooted segments := rfl
  rw [hpath]
  cases SocketPath.ofPath (Path.rooted segments).text <;> rfl

/-- A path that ends in no name, or in a dot segment, is refused. -/
theorem parse_dots (hname : name ∈ [[], ['.'], ['.', '.']])
    (hscheme : scheme ∈ ["mysql+unix".toList, "postgres+unix".toList]) :
    let s := unixUrl scheme (Path.rooted pieces).text name
    Target.parse s = .error (invalid SocketPath.Problem.noDatabase.message s) := by
  have hdots : ∀ name ∈ [[], ['.'], ['.', '.']], name.all isUnreserved := by decide
  have hchars := List.all_eq_true.1 (hdots name hname)
  rcases List.mem_cons.1 hscheme with rfl | hscheme
  · have hread := parse_mySql hpieces hchars
    dsimp only at hread
    rw [ofPath_segmentsOf_dots (isName_fillSegments hpieces) hname] at hread
    exact hread
  · have hread := parse_postgres hpieces hchars
    dsimp only at hread
    rw [ofPath_segmentsOf_dots hpieces hname] at hread
    rw [List.mem_singleton.1 hscheme]
    exact hread

section
variable (hne : pieces ≠ []) (hdatabase : IsDatabase database)
include hne hdatabase

/-- A socket of MySQL in the path reaches the driver as it is escaped there. -/
theorem leadsTo_mySql :
    let arrived := (Path.rooted (fillSegments pieces)).text
    LeadsTo (unixUrl "mysql+unix".toList (Path.rooted pieces).text database)
      { kind := .mysql, dsn := mySqlFor database arrived } (MySql.socketKey, arrived) := by
  intro arrived
  refine ⟨?_, _, text_mySqlFor database _ ▸
    parse_connectionFor (by decide) MySql.isPlain_localhost hdatabase, pairs_connectionFor _ _ _ _⟩
  have hout := connectionTo_eq
    (hostless "mysql+unix".toList (segmentsOf (fillSegments pieces) database)) arrived hdatabase
    ⟨rfl, rfl⟩ rfl
  rw [parse_mySql hpieces hdatabase.chars,
    ofPath_segmentsOf (isName_fillSegments hpieces) (fillSegments_ne_nil hne) hdatabase]
  simp only [arrived, hout, text_mySqlFor]

/-- So does the directory of a socket of PostgreSQL. -/
theorem leadsTo_postgres :
    let directory := (Path.rooted pieces).text
    LeadsTo (unixUrl "postgres+unix".toList directory database)
      { kind := .postgres, dsn := postgresFor database directory }
      (Postgres.hostKey, directory) := by
  intro directory
  have hhost : (Host.name []).IsPlain := by simp [Host.IsPlain, IsEscaped]
  refine ⟨?_, _, text_postgresFor database _ ▸ parse_connectionFor (by decide) hhost hdatabase,
    pairs_connectionFor _ _ _ _⟩
  have hout : Postgres.moveSocket
      (hostless "postgres".toList (segmentsOf pieces database)) ⟨directory, database⟩ =
      connectionFor "postgres".toList (.name []) database (Postgres.hostKey, directory) := by
    simp only [Postgres.moveSocket, withPath, hostless, Path.root_of_isSegment hdatabase.isSegment]
    rfl
  rw [parse_postgres hpieces hdatabase.chars, ofPath_segmentsOf hpieces hne hdatabase]
  simp only [directory, hout, text_postgresFor]

end

end

/-! ## the two ways -/

/-- Filled in and escaped, a socket is what it was just if there was nothing to fill or escape. -/
theorem eq_of_filled_escape_iff {arrived : List Char}
    (harrived : MySql.filled (escape set s ++ ['/']) = arrived ++ ['/']) :
    arrived = s ↔ IsEscaped set s ∧ ¬['@', '/'] <:+: s ++ ['/'] := by
  constructor
  -- Neither step makes a text shorter, so that both have to leave it alone.
  · rintro rfl
    have hnone : ¬['@', '/'] <:+: escape set arrived ++ ['/'] := by
      intro hoccurs
      have hlonger := length_lt_length_filled hoccurs
      have hescape : arrived.length ≤ (escape set arrived).length := length_le_length_escape arrived
      simp only [harrived, List.length_append] at hlonger
      omega
    rw [MySql.filled, replaceFirst_of_not_occurs hnone] at harrived
    have hself : escape set arrived = arrived := List.append_cancel_right harrived
    exact ⟨escape_eq_self_iff.1 hself, by rwa [hself] at hnone⟩
  · rintro ⟨hescaped, hnone⟩
    rw [hescaped.escape, MySql.filled, replaceFirst_of_not_occurs hnone] at harrived
    exact (List.append_cancel_right harrived).symm

/-- What becomes of a socket on its way to the driver.  In a parameter it arrives as it is.  In a
path it arrives as it is escaped there, with the host filled in behind an at sign at the end of a
segment for MySQL, so that the connection strings are the same just if there is nothing to escape
and nothing to fill in; and a path that ends in no name, or in a dot segment, is refused. -/
theorem socket_of_url (hset : Path.IsEncoding set) (hplaces : ∀ segment ∈ segments, IsPlace segment)
    (hne : segments ≠ []) :
    let socket := (Path.rooted segments).text
    let escaped := escape set socket
    readUtf8 (unescape (utf8 escaped)) = socket ∧
      (∃ arrived, MySql.filled (escaped ++ ['/']) = arrived ++ ['/'] ∧
        ∀ database, IsDatabase database →
          LeadsTo (mySqlFor database socket) { kind := .mysql, dsn := mySqlFor database socket }
            ("socket".toList, socket) ∧
          LeadsTo (unixUrl "mysql+unix".toList escaped database)
            { kind := .mysql, dsn := mySqlFor database arrived } ("socket".toList, arrived) ∧
          LeadsTo (unixUrl "postgres+unix".toList escaped database)
            { kind := .postgres, dsn := postgresFor database escaped } ("host".toList, escaped) ∧
          (mySqlFor database arrived = mySqlFor database socket ↔
            IsEscaped set socket ∧ ¬['@', '/'] <:+: socket ++ ['/'])) ∧
      ∀ name ∈ [[], ['.'], ['.', '.']], ∀ scheme ∈ ["mysql+unix".toList, "postgres+unix".toList],
        let s := unixUrl scheme escaped name
        Target.parse s = .error (invalid SocketPath.Problem.noDatabase.message s) := by
  intro socket escaped
  have hpieces := isName_escape hset hplaces
  have hescaped : escaped = (Path.rooted (segments.map (escape set))).text :=
    Path.escape_text hset.slash segments
  have hmapped : segments.map (escape set) ≠ [] := mt List.map_eq_nil_iff.1 hne
  have hsocket : socket ≠ [] := by
    obtain ⟨segment, more, rfl⟩ := List.exists_cons_of_ne_nil hne
    simp [socket, Path.text]
  have harrived : MySql.filled (escaped ++ ['/']) =
      (Path.rooted (fillSegments (segments.map (escape set)))).text ++ ['/'] := by
    rw [hescaped]
    exact filled_path (fun piece hpiece => (hpieces piece hpiece).noSlash) List.not_mem_nil
  refine ⟨by rw [unescape_escape hset.percent, readUtf8_utf8],
    ⟨_, harrived, fun database hdatabase =>
      ⟨leadsTo_mySqlFor hdatabase hsocket, ?_, ?_, ?_⟩⟩, fun name hname scheme hscheme => ?_⟩
  · exact hescaped ▸ leadsTo_mySql hpieces hmapped hdatabase
  · exact hescaped ▸ leadsTo_postgres hpieces hmapped hdatabase
  · rw [← eq_of_filled_escape_iff harrived]
    exact ⟨mySqlFor_injective, congrArg (mySqlFor database)⟩
  · exact hescaped ▸ parse_dots hpieces hname hscheme

/-- A socket with a space and a percent sign in its name, in a directory that ends in an at sign. -/
theorem socket_of_url_space :
    let set (c : Char) : Bool := inPathSet c || c == '%'
    let segments := ["run@".toList, "my 100%.sock".toList]
    let arrived := "/run@localhost/my%20100%25.sock".toList
    Path.IsEncoding set ∧ (∀ segment ∈ segments, IsPlace segment) ∧ segments ≠ [] ∧
      IsDatabase "nar_index".toList ∧
      escape set (Path.rooted segments).text = "/run@/my%20100%25.sock".toList ∧
      LeadsTo "mysql+unix:///run@/my%20100%25.sock/nar_index".toList
        { kind := .mysql, dsn := mySqlFor "nar_index".toList arrived }
        ("socket".toList, arrived) := by
  intro set segments arrived
  have hset : Path.IsEncoding set := ⟨fun c h => by simp [set, h], by decide, by decide⟩
  have hplaces : ∀ segment ∈ segments, IsPlace segment := by decide
  have hdatabase : IsDatabase "nar_index".toList := by decide
  have hescaped : escape set (Path.rooted segments).text = "/run@/my%20100%25.sock".toList := by
    decide +kernel
  refine ⟨hset, hplaces, by decide, hdatabase, hescaped, ?_⟩
  obtain ⟨-, ⟨found, hfound, hleads⟩, -⟩ := socket_of_url hset hplaces (by decide)
  have hfilled : MySql.filled (escape set (Path.rooted segments).text ++ ['/']) =
      arrived ++ ['/'] := by
    decide +kernel
  obtain rfl : found = arrived := List.append_cancel_right (hfound.symm.trans hfilled)
  have hpath := (hleads _ hdatabase).2.1
  rw [hescaped] at hpath
  exact hpath

/-- The two ways to name the same socket, with a space in it, lead to different connection strings;
the one with the socket in the path has it escaped, for MySQL as well as for PostgreSQL. -/
theorem socket_escaped_twice :
    let socket := "/run/my sql.sock".toList
    let escaped := "/run/my%20sql.sock".toList
    readUtf8 (unescape (utf8 escaped)) = socket ∧
      Form.readText "%2Frun%2Fmy+sql.sock".toList = socket ∧
      ∃ inPath inParameter directory,
        LeadsTo "mysql+unix:///run/my%20sql.sock/db".toList inPath ("socket".toList, escaped) ∧
        LeadsTo "mysql://localhost/db?socket=%2Frun%2Fmy+sql.sock".toList inParameter
          ("socket".toList, socket) ∧
        LeadsTo "postgres+unix:///run/my%20sql.sock/db".toList directory
          ("host".toList, escaped) ∧
        inPath.dsn ≠ inParameter.dsn ∧ escaped ≠ socket := by
  intro socket escaped
  exact ⟨by decide +kernel, by decide +kernel,
    { kind := .mysql, dsn := "mysql://localhost/db?socket=%2Frun%2Fmy%2520sql.sock".toList },
    { kind := .mysql, dsn := "mysql://localhost/db?socket=%2Frun%2Fmy+sql.sock".toList },
    { kind := .postgres, dsn := "postgres:///db?host=%2Frun%2Fmy%2520sql.sock".toList },
    by decide +kernel, by decide +kernel, by decide +kernel, by decide, by decide⟩

end NarIndex.Target
