import NarIndex.Proofs.Target.Redaction

/-!
# NarIndex.Proofs.Target.Sqlite

Connection strings of SQLite, read again as database URLs.  The reading of a URL takes two slashes
off the front of its path, and knows the database in memory by its name before that.  So the
connection string of a path which still begins with two slashes, or is that name, is read as another
database (`parse_dsn_file`), and that of every other path as the same (`parse_dsn_eq_iff`).
-/

namespace NarIndex.Target

open NarIndex.Text

variable {s scheme rest path : List Char} {target : Target}

namespace SqliteDatabase

/-! ## paths -/

/-- A text without the parameters behind it. -/
def withoutParameters (s : List Char) : List Char :=
  match cut? '?' s with
  | some (front, _) => front
  | none => s

theorem notMem_withoutParameters (s : List Char) : '?' ∉ withoutParameters s := by
  rw [withoutParameters]
  rcases cut?_cases '?' s with ⟨hcut, h⟩ | ⟨a, b, hcut, -, h⟩
  · rwa [hcut]
  · rwa [hcut]

/-- A path without the two slashes that it may begin with. -/
def withoutSlashes (path : List Char) : List Char :=
  (dropPrefix? ['/', '/'] path).getD path

theorem withoutSlashes_of_not_begins (h : ¬['/', '/'] <+: path) : withoutSlashes path = path := by
  rw [withoutSlashes, dropPrefix?_eq_none_iff.2 h]
  rfl

theorem withoutSlashes_append (rest : List Char) : withoutSlashes ('/' :: '/' :: rest) = rest :=
  rfl

/-- Only two slashes in front are lost. -/
theorem withoutSlashes_eq_self_iff : withoutSlashes path = path ↔ ¬['/', '/'] <+: path := by
  refine ⟨fun h hp => ?_, withoutSlashes_of_not_begins⟩
  obtain ⟨rest, rfl⟩ := hp
  have hlength := congrArg List.length (h.symm.trans (withoutSlashes_append rest))
  simp only [List.cons_append, List.nil_append, List.length_cons] at hlength
  omega

/-- What loses no slashes comes from itself, or from itself behind two of them. -/
theorem withoutSlashes_eq_iff (hp : ¬['/', '/'] <+: path) :
    withoutSlashes s = path ↔ s = path ∨ s = '/' :: '/' :: path := by
  by_cases h : ['/', '/'] <+: s
  · obtain ⟨rest, rfl⟩ := h
    have hne : ['/', '/'] ++ rest ≠ path := fun heq => hp (heq ▸ List.prefix_append _ rest)
    have hrest : withoutSlashes (['/', '/'] ++ rest) = rest := withoutSlashes_append rest
    simp_all
  · have hne : s ≠ '/' :: '/' :: path := fun heq => h (heq ▸ ⟨path, rfl⟩)
    simp [withoutSlashes_of_not_begins h, hne]

/-- Two slashes are left of a path just if it begins with four. -/
theorem slashes_prefix_withoutSlashes_iff :
    ['/', '/'] <+: withoutSlashes path ↔ "////".toList <+: path := by
  by_cases h : ['/', '/'] <+: path
  · obtain ⟨rest, rfl⟩ := h
    have hrest : withoutSlashes (['/', '/'] ++ rest) = rest := withoutSlashes_append rest
    have hfour : "////".toList = ['/', '/'] ++ ['/', '/'] := rfl
    rw [hrest, hfour, List.prefix_append_right_inj]
  · have hfour : ['/', '/'] <+: "////".toList := ⟨['/', '/'], rfl⟩
    rw [withoutSlashes_of_not_begins h]
    exact ⟨fun hp => absurd hp h, fun hp => absurd (hfour.trans hp) h⟩

/-! ## reading -/

/-- A database is read from what stands before the parameters. -/
theorem read?_eq (s : List Char) :
    read? s =
      if withoutParameters s = inMemory then some .memory
      else if withoutSlashes (withoutParameters s) = [] then none
      else some (.file (withoutSlashes (withoutParameters s))) :=
  rfl

/-- A database that was read is the one in memory or a file. -/
theorem of_read? {database : SqliteDatabase} (h : read? s = some database) :
    (withoutParameters s = inMemory ∧ database = .memory) ∨
      withoutParameters s ≠ inMemory ∧ withoutSlashes (withoutParameters s) ≠ [] ∧
        database = .file (withoutSlashes (withoutParameters s)) := by
  rw [read?_eq] at h
  split at h
  · cases h
    exact .inl ⟨‹_›, rfl⟩
  · split at h
    · contradiction
    · cases h
      exact .inr ⟨‹_›, ‹_›, rfl⟩

/-- Parameters do not decide which database is read. -/
theorem read?_append (h : '?' ∉ path) (rest : List Char) :
    read? (path ++ '?' :: rest) =
      if path = inMemory then some .memory
      else if withoutSlashes path = [] then none
      else some (.file (withoutSlashes path)) := by
  rw [read?_eq, withoutParameters, cut?_append_cons h]

/-- A URL of SQLite leads to the database that the text behind its scheme names. -/
theorem parse_eq (hcolon : ':' ∉ scheme) (hkind : kindOfScheme? (toLower scheme) = some .sqlite)
    (rest : List Char) :
    Target.parse (scheme ++ ':' :: rest) =
      match read? rest with
      | some database => .ok (ofSqlite database)
      | none => .error
        (.invalidUrl ("missing database path: " ++ String.ofList (scheme ++ ':' :: rest))) := by
  rw [Target.parse, detectKind, scheme_append hcolon, hkind]
  simp only [bind, Except.bind, ofUrl, cut?_append_cons hcolon]
  cases read? rest <;> rfl

/-- The text between the scheme of a URL and its parameters. -/
def pathText (s : List Char) : List Char :=
  withoutParameters ((cut? ':' s).elim [] (·.2))

theorem of_ofUrl {database : SqliteDatabase} (h : ofUrl s = .ok database) :
    (pathText s = inMemory ∧ database = .memory) ∨
      pathText s ≠ inMemory ∧ withoutSlashes (pathText s) ≠ [] ∧
        database = .file (withoutSlashes (pathText s)) := by
  rw [ofUrl] at h
  split at h
  · contradiction
  · rename_i front rest hcut
    have htext : pathText s = withoutParameters rest := by rw [pathText, hcut]; rfl
    rw [htext]
    split at h
    · rename_i database hread
      cases h
      exact of_read? hread
    · contradiction

/-- What the target of a URL of SQLite is built from. -/
theorem exists_of_parse (h : Target.parse s = .ok target) (hkind : target.kind = .sqlite) :
    (pathText s = inMemory ∧ target = ofSqlite .memory) ∨
      pathText s ≠ inMemory ∧ withoutSlashes (pathText s) ≠ [] ∧
        target = ofSqlite (.file (withoutSlashes (pathText s))) := by
  obtain ⟨-, ⟨database, hdatabase, rfl⟩ | ⟨out, -, rfl⟩ | ⟨out, -, rfl⟩⟩ := of_parse h
  · rcases of_ofUrl hdatabase with ⟨hmemory, rfl⟩ | ⟨hmemory, hne, rfl⟩
    · exact .inl ⟨hmemory, rfl⟩
    · exact .inr ⟨hmemory, hne, rfl⟩
  · contradiction
  · contradiction

theorem notMem_withoutSlashes {c : Char} (h : c ∉ path) : c ∉ withoutSlashes path := by
  by_cases hp : ['/', '/'] <+: path
  · obtain ⟨rest, rfl⟩ := hp
    exact fun hmem => h (List.mem_append_right _ hmem)
  · rwa [withoutSlashes_of_not_begins hp]

/-! ## reading again -/

/-- The connection string of a file is its path with the mode behind it. -/
theorem dsn_file (path : List Char) :
    dsn (.file path) = "sqlite".toList ++ ':' :: (path ++ '?' :: "mode=rwc".toList) := by
  have hdsn : dsn (.file path) = ("sqlite".toList ++ [':']) ++ path ++ '?' :: "mode=rwc".toList :=
    rfl
  simpa using hdsn

/-- The connection string of the database in memory is read as that. -/
theorem parse_dsn_memory : Target.parse (dsn .memory) = .ok (ofSqlite .memory) := by
  have hcolon : ':' ∉ "sqlite".toList := by decide
  exact parse_eq hcolon (by decide) inMemory

/-- The database that the connection string of a file is read as. -/
theorem parse_dsn_file (h : '?' ∉ path) :
    Target.parse (dsn (.file path)) =
      if path = inMemory then .ok (ofSqlite .memory)
      else if withoutSlashes path = [] then
        .error (.invalidUrl ("missing database path: " ++ String.ofList (dsn (.file path))))
      else .ok (ofSqlite (.file (withoutSlashes path))) := by
  have hcolon : ':' ∉ "sqlite".toList := by decide
  have hkind : kindOfScheme? (toLower "sqlite".toList) = some .sqlite := by decide
  rw [dsn_file, parse_eq hcolon hkind, read?_append h]
  by_cases hmemory : path = inMemory
  · simp only [if_pos hmemory]
  · by_cases hempty : withoutSlashes path = []
    · simp only [if_neg hmemory, if_pos hempty]
    · simp only [if_neg hmemory, if_neg hempty]

/-- Two slashes at the front of a path are lost in its connection string. -/
theorem parse_dsn_slashes (hq : '?' ∉ rest) :
    Target.parse (dsn (.file ('/' :: '/' :: rest))) =
      if rest = [] then
        .error (.invalidUrl
          ("missing database path: " ++ String.ofList (dsn (.file ('/' :: '/' :: rest)))))
      else .ok (ofSqlite (.file rest)) := by
  have hmemory : '/' :: '/' :: rest ≠ inMemory := fun heq =>
    absurd (List.cons.inj heq).1 (by decide)
  rw [parse_dsn_file (by simp [hq]), if_neg hmemory, withoutSlashes_append]

/-- The connection string of a file is read as the same file, unless its path is the name of the
database in memory, or begins with two slashes. -/
theorem parse_dsn_file_eq_iff (hq : '?' ∉ path) (hne : path ≠ []) :
    Target.parse (dsn (.file path)) = .ok (ofSqlite (.file path)) ↔
      path ≠ inMemory ∧ ¬['/', '/'] <+: path := by
  rw [parse_dsn_file hq]
  by_cases hmemory : path = inMemory
  · simp [hmemory, ofSqlite, path?]
  by_cases hp : ['/', '/'] <+: path
  · have hother : withoutSlashes path ≠ path := mt withoutSlashes_eq_self_iff.1 (not_not_intro hp)
    rw [if_neg hmemory]
    split
    · simp [hp]
    · simp [ofSqlite, path?, hother, hp]
  · simp [hmemory, hp, withoutSlashes_of_not_begins hp, hne]

/-- Read again, the connection string leads to the same target, unless the path of the URL begins
with four slashes, or is the name of the database in memory behind two. -/
theorem parse_dsn_eq_iff (h : Target.parse s = .ok target) (hkind : target.kind = .sqlite) :
    Target.parse target.dsn = .ok target ↔
      ¬"////".toList <+: pathText s ∧ pathText s ≠ "//:memory:".toList := by
  rcases exists_of_parse h hkind with ⟨hmemory, rfl⟩ | ⟨hmemory, hne, rfl⟩
  · rw [hmemory]
    exact iff_of_true parse_dsn_memory (by decide)
  · have hname : ¬['/', '/'] <+: inMemory := by decide
    have hslashes : "//:memory:".toList = '/' :: '/' :: inMemory := rfl
    have hquery : '?' ∉ pathText s := notMem_withoutParameters _
    have hfile := parse_dsn_file_eq_iff (notMem_withoutSlashes hquery) hne
    rw [Ne, withoutSlashes_eq_iff hname, slashes_prefix_withoutSlashes_iff, ← hslashes] at hfile
    refine hfile.trans ?_
    rw [not_or, and_assoc, and_comm (b := ¬_)]
    exact and_iff_right hmemory

end SqliteDatabase

end NarIndex.Target
