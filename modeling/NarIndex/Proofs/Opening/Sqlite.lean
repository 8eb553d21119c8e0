import NarIndex.Proofs.Opening.Driver
import NarIndex.Proofs.Target.Sqlite
import NarIndex.Proofs.Text.Utf8
import NarIndex.Proofs.Url.Location

/-!
# NarIndex.Proofs.Opening.Sqlite

The database that the driver opens for a connection string of SQLite.  The driver reads the string
as a URL, prints that again, and decodes what stands between the scheme and the parameters.  For a
path that all this leaves as it is (`IsVerbatim`) it opens the file whose directory the store has
made (`connect_file`, `obstacleBefore?_of_makeDirectory`); for a path that loses slashes on the way,
or has a percent sign to decode, it opens another one (`dsn_names_other_file`).
-/

namespace NarIndex.Opening

open NarIndex.Text NarIndex.Url NarIndex.Target SqliteDatabase

variable {s rest path : List Char} {target : Target} {set : Char → Bool}

/-- Whether the driver finds a path in a connection string as it is written there: it has nothing
that a URL is cut at, leaves out or decodes, no dot segments behind a root, and does not begin as a
connection string does. -/
structure IsVerbatim (path : List Char) : Prop where
  chars : ∀ c ∈ path, c ∉ ['%', '#', '\t', '\n', '\r']
  noAuthority : ¬['/', '/'] <+: path
  noScheme : ¬"sqlite:".toList <+: path
  noDots : ['/'] <+: path → ∀ segment ∈ splitOn '/' path, segment ≠ ['.'] ∧ segment ≠ ['.', '.']

/-! ## the name of a database -/

/-- A text that does not begin so loses nothing. -/
theorem dropRepeated_of_not_begins {beginning : List Char} (h : ¬beginning <+: s) (fuel : Nat) :
    dropRepeated beginning fuel s = s := by
  cases fuel with
  | zero => rfl
  | succ fuel => rw [dropRepeated, dropPrefix?_eq_none_iff.2 h]

theorem dropRepeated_append {beginning : List Char} (h : ¬beginning <+: s) (fuel : Nat) :
    dropRepeated beginning (fuel + 1) (beginning ++ s) = s := by
  rw [dropRepeated, dropPrefix?_append]
  exact dropRepeated_of_not_begins h fuel

/-- The name stands between the scheme and the parameters. -/
theorem databaseName_eq (hroot : ¬['/', '/'] <+: s) (hscheme : ¬"sqlite:".toList <+: s)
    (hq : '?' ∉ s) : databaseName ("sqlite:".toList ++ (s ++ '?' :: rest)) = s := by
  let text := "sqlite:".toList ++ (s ++ '?' :: rest)
  have hslashes : ¬"sqlite://".toList <+: text := by
    have hsplit : "sqlite://".toList = "sqlite:".toList ++ ['/', '/'] := by decide
    rw [hsplit, List.prefix_append_right_inj]
    exact not_prefix_append_cons (by decide) hroot
  have hlength : text.length = (6 + (s ++ '?' :: rest).length) + 1 := by
    have hscheme : "sqlite:".toList.length = 7 := by decide
    simp only [text, List.length_append, hscheme]
    omega
  have hbehind : dropRepeated "sqlite:".toList text.length
      (dropRepeated "sqlite://".toList text.length text) = s ++ '?' :: rest := by
    rw [dropRepeated_of_not_begins hslashes, hlength]
    exact dropRepeated_append (not_prefix_append_cons (by decide) hscheme) _
  rw [databaseName]
  simp only [text] at hbehind
  rw [hbehind, cut?_append_cons hq]
  rfl

/-! ## connection strings -/

/-- The driver of SQLite opens what the name in the connection string spells. -/
theorem connect_of_parse {url : Url} (h : Url.parse s = .ok url) (hs : url.scheme = "sqlite".toList)
    (hname : unescape (utf8 (databaseName url.text)) = utf8 path) (around : Surroundings) :
    connect around s = openFile around path := by
  have hdriver : driver? "sqlite".toList = some .sqlite := by decide
  rw [connect, h]
  simp only [hs, hdriver]
  rw [connectSqlite, hname]
  simp only [utf8Fault?_utf8, readUtf8_utf8]

section
variable (h : IsVerbatim path)
include h

/-- The path of a connection string, read and printed again. -/
theorem exists_location :
    ∃ location set, (∀ query, readPlain ⟨path, query, none⟩ = .ok (none, location)) ∧
      ∀ url : Url, url.authority = none → url.path = location → url.location = escape set path := by
  by_cases hroot : ['/'] <+: path
  · obtain ⟨s, rfl⟩ := hroot
    have hpercent : '%' ∉ s := fun hmem => h.chars _ (List.mem_cons_of_mem _ hmem) (by decide)
    have hsplit : splitOn '/' ('/' :: s) = [] :: splitOn '/' s := by simp [splitOn]
    obtain ⟨set, segments, hsegments, hresolved, htext⟩ :=
      Path.exists_text_root hpercent fun piece hpiece =>
        h.noDots ⟨s, rfl⟩ piece (hsplit ▸ List.mem_cons_of_mem _ hpiece)
    refine ⟨.rooted segments, set, fun _ => hsegments ▸ readPlain_root h.noAuthority,
      fun url ha hpath => ?_⟩
    rcases location_cases ha hpath fun segment hsegment => (hresolved segment hsegment).noSlash with
      ⟨hslashes, -⟩ | ⟨-, hlocation⟩
    · exact absurd (prefix_of_escape (by decide) (htext ▸ hslashes)) h.noAuthority
    · exact hlocation.trans htext
  · refine ⟨Path.free path, isControl, fun _ => readPlain_free hroot, fun url ha hpath => ?_⟩
    rw [location, ha, hpath]
    rfl

/-- The connection string of a file, read as a URL, has the path in it, escaped. -/
theorem exists_parse_dsn (hq : '?' ∉ path) :
    ∃ url set, Url.parse (dsn (.file path)) = .ok url ∧ url.scheme = "sqlite".toList ∧
      url.text = "sqlite:".toList ++ (escape set path ++ '?' :: "mode=rwc".toList) := by
  have hmem : "sqlite".toList ∈ dsnSchemes .sqlite := by decide
  have hs : IsPlainScheme "sqlite".toList := isPlainScheme_of_dsnScheme hmem
  let mode := "mode=rwc".toList
  have hall : ('?' :: mode).all (0x20 < ·.toNat) := by decide
  have hvisible : Url.IsVisible ('?' :: mode) :=
    fun c hc => of_decide_eq_true (List.all_eq_true.1 hall c hc)
  have hunbroken : unbroken path = path := by
    have hbreaks : ['\t', '\n', '\r'] ⊆ ['%', '#', '\t', '\n', '\r'] := by simp
    exact unbroken_of_forall fun c hc hbreak => h.chars c hc (hbreaks hbreak)
  have hclean : unbroken (dropEndWhile (·.toNat ≤ 0x20) (path ++ '?' :: mode)) =
      path ++ marked '?' (some mode) ++ marked '#' none := by
    rw [hvisible.clean_end (List.cons_ne_nil _ _), hunbroken]
    simp [marked]
  have hsections : Sections.of (path ++ marked '?' (some mode) ++ marked '#' none) =
      ⟨path, some mode, none⟩ :=
    Sections.of_marked (fun hmem => h.chars _ hmem (by decide)) hq fun q hmem => by
      cases Option.mem_some_iff.1 hmem
      decide
  obtain ⟨location, set, hread, hlocation⟩ := exists_location h
  let url : Url := { scheme := "sqlite".toList, path := location, query := some mode }
  have hparse : Url.parse (dsn (.file path)) = .ok url := by
    have hlower : toLower "sqlite".toList = "sqlite".toList := by decide
    have hmode : escape inQuerySet mode = mode := by decide
    rw [dsn_file, parse_append hs, hclean, hsections]
    simp only [hread, Except.map, hlower, Option.map_some, Option.map_none, hmode, url]
  refine ⟨url, set, hparse, rfl, ?_⟩
  have htext : url.text = "sqlite".toList ++ ':' :: url.location ++ '?' :: mode ++ [] := rfl
  rw [htext, hlocation url rfl rfl]
  simp [mode]

/-- The driver opens the file that the connection string has before its parameters. -/
theorem connect_file (hq : '?' ∉ path) (around : Surroundings) :
    connect around (dsn (.file path)) = openFile around path := by
  obtain ⟨url, set, hparse, hscheme, htext⟩ := exists_parse_dsn h hq
  have hpercent : '%' ∉ path := fun hmem => h.chars _ hmem (by decide)
  have hname : databaseName url.text = escape set path := by
    rw [htext]
    refine databaseName_eq (fun hp => h.noAuthority (prefix_of_escape (by decide) hp))
      (fun hp => h.noScheme (prefix_of_escape (by decide) hp)) fun hmem => ?_
    exact hq (mem_of_mem_escape (by decide) (by decide) hmem)
  exact connect_of_parse hparse hscheme (hname ▸ unescape_escape_of_notMem hpercent) around

end

/-- The database in memory is always there. -/
theorem connect_memory (around : Surroundings) : connect around (dsn .memory) = .ok () := by
  let url : Url := { scheme := "sqlite".toList, path := .unrooted inMemory }
  have hparse : Url.parse (dsn .memory) = .ok url := toOption_eq_some_iff.1 (by decide +kernel)
  have hname : unescape (utf8 (databaseName url.text)) = utf8 inMemory := by decide +kernel
  have hnul : inMemory.contains '\x00' = false := by decide
  rw [connect_of_parse hparse rfl hname, openFile, hnul]
  simp

/-! ## the directory of a file -/

/-- The way to the place before the last part ends one place earlier. -/
theorem dropLast_routeFrom (place : Place) (parts : List (List Char)) :
    (place.routeFrom parts).dropLast = place.routeFrom parts.dropLast := by
  induction parts generalizing place with
  | nil => rfl
  | cons part parts ih =>
    cases parts with
    | nil => rfl
    | cons next parts =>
      have hnext := ih (place.step part)
      simp only [Place.routeFrom, List.dropLast_cons_cons] at hnext ⊢
      rw [hnext]

/-- Where nothing keeps directories from being made, the names are short enough. -/
theorem isTooLong_of_obstacleAlong? {files : FileSystem} {made : Bool} {route : List Place}
    (h : Place.obstacleAlong? files made route = none) :
    ∀ place ∈ route, place.isTooLong = false := by
  induction route generalizing made with
  | nil => simp
  | cons place route ih =>
    rw [Place.obstacleAlong?] at h
    split at h
    · contradiction
    · rename_i hshort
      refine List.forall_mem_cons.2 ⟨by simpa using hshort, ?_⟩
      split at h
      · contradiction
      · exact ih h
      · exact ih h

/-- A place has no parent, or the one without its last part. -/
theorem parent?_cases (place : Place) :
    (place.parent? = none ∧ place.parts.length ≤ 1) ∨
      place.parent? = some { place with parts := place.parts.dropLast } := by
  by_cases h : place.parts.length ≤ (if place.absolute then 0 else 1)
  · exact .inl ⟨if_pos h, by split at h <;> omega⟩
  · exact .inr (if_neg h)

/-- Without a place above it, there is nothing on the way to a place. -/
theorem obstacleBefore?_of_parent?_eq_none {place : Place} (h : place.parent? = none)
    (files : FileSystem) : place.obstacleBefore? files = none := by
  have hroute : place.route.dropLast = [] := by
    rcases parent?_cases place with ⟨-, hlength⟩ | hparent
    · rw [← List.length_eq_zero_iff, List.length_dropLast, Place.route, Place.length_routeFrom]
      omega
    · cases h.symm.trans hparent
  rw [Place.obstacleBefore?, hroute]
  rfl

/-- With the directories made above a place, nothing is in the way to it. -/
theorem obstacleBefore?_making {place directory : Place} {files : FileSystem}
    (h : place.parent? = some directory) (hmaking : directory.obstacleToMaking? files = none) :
    place.obstacleBefore? (directory.making files) = none := by
  have hroute : directory.route = place.route.dropLast := by
    rcases parent?_cases place with ⟨hnone, -⟩ | hparent
    · cases h.symm.trans hnone
    · cases h.symm.trans hparent
      exact (dropLast_routeFrom _ _).symm
  have hshort : ∀ place ∈ directory.route, place.isTooLong = false := by
    rw [Place.obstacleToMaking?] at hmaking
    split at hmaking
    · contradiction
    · exact isTooLong_of_obstacleAlong? hmaking
  rw [Place.obstacleBefore?, ← hroute, List.findSome?_eq_none_iff]
  intro place hplace
  simp [Place.blocks?, hshort place hplace, Place.making, hplace]

/-- Once its directory has been made, nothing is in the way to a file. -/
theorem obstacleBefore?_of_makeDirectory {around made : Surroundings}
    (h : makeDirectory around target = .ok made) (hfile : target.file = some path) :
    (Place.ofPath path).obstacleBefore? made.files = none := by
  rw [makeDirectory, hfile, Option.bind_some] at h
  split at h
  · cases h
    exact obstacleBefore?_of_parent?_eq_none ‹_› _
  · split at h
    · contradiction
    · cases h
      exact obstacleBefore?_making ‹_› ‹_›

/-! ## targets -/

/-- The connection string and the file of a SQLite target.  Only the database in memory has no file.
Read again, the connection string leads to the same target, unless the path of the URL begins with
four slashes, of which it then loses all, or is the name of the database in memory behind two
slashes, and is then taken for it.  The driver opens the file, with nothing in its way once the
directory has been made, if the path stands in the connection string as a URL keeps it. -/
theorem dsn_names_database (h : Target.parse s = .ok target) (hkind : target.kind = .sqlite) :
    (target.file = none ↔ target.dsn = "sqlite::memory:".toList) ∧
    (Target.parse target.dsn = .ok target ↔
      ¬"////".toList <+: pathText s ∧ pathText s ≠ "//:memory:".toList) ∧
    (∀ path, target.file = some path →
      (path = ":memory:".toList → Target.parse target.dsn = .ok (ofSqlite .memory)) ∧
      (∀ rest ≠ [], path = '/' :: '/' :: rest →
        Target.parse target.dsn = .ok (ofSqlite (.file rest))) ∧
      (path = ['/', '/'] → ∃ reason, Target.parse target.dsn = .error (.invalidUrl reason))) ∧
    (target.file = none → ∀ around, connect around target.dsn = .ok ()) ∧
    ∀ path, target.file = some path → IsVerbatim path → ∀ around made,
      makeDirectory around target = .ok made →
        connect made target.dsn = openFile made path ∧
          (Place.ofPath path).obstacleBefore? made.files = none := by
  have hfixed := parse_dsn_eq_iff h hkind
  rcases exists_of_parse h hkind with ⟨-, rfl⟩ | ⟨-, -, rfl⟩
  · exact ⟨iff_of_true rfl rfl, hfixed, fun path hpath => by contradiction,
      fun _ => connect_memory, fun path hpath => by contradiction⟩
  · have hq : '?' ∉ withoutSlashes (pathText s) :=
      notMem_withoutSlashes (notMem_withoutParameters _)
    generalize withoutSlashes (pathText s) = path at hfixed hq ⊢
    have hdsn : dsn (.file path) ≠ "sqlite::memory:".toList := by
      have hmark : '?' ∈ dsn (.file path) := by simp [dsn_file]
      exact fun heq => absurd (heq ▸ hmark) (by decide)
    refine ⟨iff_of_false (by simp [ofSqlite, path?]) hdsn, hfixed, fun _ hpath => ?_,
      fun hnone => by contradiction, fun _ hpath hverbatim around made hmade => ?_⟩
    · cases hpath
      refine ⟨fun hmemory => ?_, fun rest hrest hslashes => ?_, fun hslashes => ?_⟩
      · exact (parse_dsn_file hq).trans (if_pos hmemory)
      · subst hslashes
        exact (parse_dsn_slashes fun hmem => hq (by simp [hmem])).trans (if_neg hrest)
      · subst hslashes
        exact ⟨_, (parse_dsn_slashes List.not_mem_nil).trans (if_pos rfl)⟩
    · cases hpath
      exact ⟨connect_file hverbatim hq made, obstacleBefore?_of_makeDirectory hmade rfl⟩

/-- A file with a space in its path, named with two slashes before its root, and with parameters. -/
theorem dsn_names_database_space :
    let path := "/var/lib/nar index/db.sqlite".toList
    let target := ofSqlite (.file path)
    let around : Surroundings := { files := fun _ => none }
    let directory : Place := ⟨true, ["var".toList, "lib".toList, "nar index".toList]⟩
    let made : Surroundings := { files := directory.making around.files }
    Target.parse "SQLite3:///var/lib/nar index/db.sqlite?_fk=1".toList = .ok target ∧
      target.kind = .sqlite ∧ target.dsn = "sqlite:/var/lib/nar index/db.sqlite?mode=rwc".toList ∧
      Target.parse target.dsn = .ok target ∧ target.file = some path ∧ IsVerbatim path ∧
      makeDirectory around target = .ok made ∧ connect made target.dsn = openFile made path := by
  intro path target around directory made
  have htarget : Target.parse "SQLite3:///var/lib/nar index/db.sqlite?_fk=1".toList = .ok target :=
    toOption_eq_some_iff.1 (by decide +kernel)
  have hall : path.all (· ∉ ['%', '#', '\t', '\n', '\r']) := by decide
  have hverbatim : IsVerbatim path :=
    ⟨fun c hc => of_decide_eq_true (List.all_eq_true.1 hall c hc), by decide, by decide,
      fun _ => by decide⟩
  have hmade : makeDirectory around target = .ok made := rfl
  obtain ⟨-, hfixed, -, -, hopens⟩ := dsn_names_database htarget rfl
  exact ⟨htarget, rfl, rfl, hfixed.2 (by decide), rfl, hverbatim, hmade,
    (hopens path rfl hverbatim around made hmade).1⟩

/-- A path with four slashes loses two of them in its connection string, and so its root: read again
that names another file, which is the one that the driver opens.  And the driver decodes a percent
sign that the path of the file has. -/
theorem dsn_names_other_file :
    (∃ target, Target.parse "sqlite:////tmp/x.db".toList = .ok target ∧
      target.file = some "//tmp/x.db".toList ∧
      Target.parse target.dsn = .ok (ofSqlite (.file "tmp/x.db".toList)) ∧
      Target.parse target.dsn ≠ .ok target ∧
      ∀ around, connect around target.dsn = openFile around "tmp/x.db".toList) ∧
    ∃ target, Target.parse "sqlite:/tmp/a%20b/x.db".toList = .ok target ∧
      target.file = some "/tmp/a%20b/x.db".toList ∧
      ∀ around, connect around target.dsn = openFile around "/tmp/a b/x.db".toList := by
  let slashes := ofSqlite (.file "//tmp/x.db".toList)
  let percent := ofSqlite (.file "/tmp/a%20b/x.db".toList)
  have hagain : Target.parse slashes.dsn = .ok (ofSqlite (.file "tmp/x.db".toList)) :=
    toOption_eq_some_iff.1 (by decide +kernel)
  have hslashes : ∃ url, Url.parse slashes.dsn = .ok url ∧ url.scheme = "sqlite".toList ∧
      unescape (utf8 (databaseName url.text)) = utf8 "tmp/x.db".toList :=
    ⟨{ scheme := "sqlite".toList, authority := some { host := .name "tmp".toList }
       path := .rooted ["x.db".toList], query := some "mode=rwc".toList },
      toOption_eq_some_iff.1 (by decide +kernel), rfl, by decide +kernel⟩
  have hpercent : ∃ url, Url.parse percent.dsn = .ok url ∧ url.scheme = "sqlite".toList ∧
      unescape (utf8 (databaseName url.text)) = utf8 "/tmp/a b/x.db".toList :=
    ⟨{ scheme := "sqlite".toList, path := .rooted ["tmp".toList, "a%20b".toList, "x.db".toList]
       query := some "mode=rwc".toList },
      toOption_eq_some_iff.1 (by decide +kernel), rfl, by decide +kernel⟩
  obtain ⟨_, hparse, hs, hname⟩ := hslashes
  obtain ⟨_, hparse', hs', hname'⟩ := hpercent
  have hdiffers : slashes ≠ ofSqlite (.file "tmp/x.db".toList) := by decide
  exact ⟨⟨slashes, toOption_eq_some_iff.1 (by decide +kernel), rfl, hagain,
      fun h => hdiffers (Except.ok.inj (h.symm.trans hagain)), connect_of_parse hparse hs hname⟩,
    percent, toOption_eq_some_iff.1 (by decide +kernel), rfl, connect_of_parse hparse' hs' hname'⟩

end NarIndex.Opening
