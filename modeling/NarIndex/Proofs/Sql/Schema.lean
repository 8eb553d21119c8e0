import NarIndex.Proofs.Text.Blank
import NarIndex.Sql.Schema

/-!
# NarIndex.Proofs.Sql.Schema

Cutting a schema into statements.  A text has the same lines of SQL after it has been trimmed
(`sqlLines_trim`); so a piece between semicolons is a statement just when it has such a line, and a
statement is one again when statements are put together (`filterMap_statementOf?`).  Lines of SQL
that no semicolon cuts are found in the statements, in their order (`wholeLines_sublist`), and the
statements in the text (`standIn_filterMap`).
-/

namespace NarIndex.Sql

open NarIndex.Text

variable {line piece s a b : List Char} {c : Char} {keep : List Char → Bool}

/-! ## lines -/

/-- Whether a line is neither blank nor a comment. -/
def HoldsSql (line : List Char) : Prop :=
  trim line ≠ [] ∧ ¬"--".toList <+: trim line

theorem isSqlLine_iff : isSqlLine line = true ↔ HoldsSql line := by
  simp [isSqlLine, HoldsSql, ← List.isPrefixOf_iff_prefix]

instance : DecidablePred HoldsSql := fun _ => decidable_of_iff _ isSqlLine_iff

/-- White space around a line does not decide whether it holds SQL. -/
theorem isSqlLine_congr (h : trim a = trim b) : isSqlLine a = isSqlLine b := by
  rw [isSqlLine, isSqlLine, h]

/-- Some of the lines of a text, trimmed. -/
def linesWhere (keep : List Char → Bool) (text : List Char) : List (List Char) :=
  ((splitOn '\n' text).filter keep).map trim

/-- The lines of a text that hold SQL. -/
def sqlLines (text : List Char) : List (List Char) :=
  linesWhere isSqlLine text

/-- Those of them that no semicolon cuts. -/
def wholeLines (text : List Char) : List (List Char) :=
  linesWhere (fun line => ';' ∉ line ∧ isSqlLine line) text

/-- The lines behind a line end are those of the rest. -/
theorem linesWhere_append_cons (a b : List Char) :
    linesWhere keep (a ++ '\n' :: b) = linesWhere keep a ++ linesWhere keep b := by
  rw [linesWhere, splitOn_append_cons, List.filter_append, List.map_append]
  rfl

theorem linesWhere_of_notMem (h : '\n' ∉ s) :
    linesWhere keep s = if keep s then [trim s] else [] := by
  rw [linesWhere, splitOn_of_notMem h, List.filter_cons, List.filter_nil]
  split <;> rfl

theorem mem_sqlLines_iff :
    line ∈ sqlLines s ↔ ∃ other ∈ splitOn '\n' s, HoldsSql other ∧ trim other = line := by
  simp [sqlLines, linesWhere, isSqlLine_iff, and_assoc]

theorem sqlLines_eq_nil_iff : sqlLines s = [] ↔ ∀ line ∈ splitOn '\n' s, ¬HoldsSql line := by
  simp [sqlLines, linesWhere, isSqlLine_iff]

theorem sqlLines_ne_nil_iff : sqlLines s ≠ [] ↔ ∃ line ∈ splitOn '\n' s, HoldsSql line := by
  simp [sqlLines_eq_nil_iff]

/-! ## white space around a text -/

/-- White space in front of a text is part of none of its lines of SQL. -/
theorem sqlLines_cons (h : isBlank c = true) (s : List Char) : sqlLines (c :: s) = sqlLines s := by
  by_cases hc : c = '\n'
  · rw [hc]
    exact linesWhere_append_cons [] s
  · obtain ⟨first, rest, hs, hcs⟩ := splitOn_cons_of_ne hc s
    have htrim : trim (c :: first) = trim first := trimWhile_cons h first
    rw [sqlLines, linesWhere, hcs, List.filter_cons, isSqlLine_congr htrim, sqlLines, linesWhere,
      hs, List.filter_cons]
    split
    · rw [List.map_cons, List.map_cons, htrim]
    · rfl

/-- Nor is white space behind it. -/
theorem sqlLines_concat (h : isBlank c = true) (s : List Char) :
    sqlLines (s ++ [c]) = sqlLines s := by
  by_cases hc : c = '\n'
  · rw [hc]
    exact (linesWhere_append_cons s []).trans (List.append_nil _)
  · have hline (last : List Char) (hlast : '\n' ∉ last) :
        linesWhere isSqlLine (last ++ [c]) = linesWhere isSqlLine last := by
      have htrim : trim (last ++ [c]) = trim last := trimWhile_concat h last
      rw [linesWhere_of_notMem hlast, linesWhere_of_notMem (by simp [hlast, Ne.symm hc]),
        isSqlLine_congr htrim, htrim]
    rw [sqlLines, sqlLines]
    rcases notMem_or_exists_last '\n' s with hs | ⟨before, last, rfl, hlast⟩
    · exact hline s hs
    · rw [List.append_assoc, List.cons_append, linesWhere_append_cons, hline last hlast,
        linesWhere_append_cons]

theorem sqlLines_append_left (h : ∀ c ∈ a, isBlank c = true) (s : List Char) :
    sqlLines (a ++ s) = sqlLines s := by
  induction a with
  | nil => rfl
  | cons c a ih =>
    obtain ⟨hc, ha⟩ := List.forall_mem_cons.1 h
    rw [List.cons_append, sqlLines_cons hc, ih ha]

theorem sqlLines_append_right (h : ∀ c ∈ b, isBlank c = true) (s : List Char) :
    sqlLines (s ++ b) = sqlLines s := by
  induction b generalizing s with
  | nil => rw [List.append_nil]
  | cons c b ih =>
    obtain ⟨hc, hb⟩ := List.forall_mem_cons.1 h
    rw [List.append_cons, ih hb, sqlLines_concat hc]

/-- Trimming a text changes none of its lines of SQL. -/
theorem sqlLines_trim (s : List Char) : sqlLines (trim s) = sqlLines s := by
  obtain ⟨front, back, hs, hfront, hback⟩ := exists_eq_append_trimWhile isBlank s
  calc sqlLines (trim s)
    _ = sqlLines (front ++ trim s ++ back) := by
      rw [sqlLines_append_right hback, sqlLines_append_left hfront]
    _ = sqlLines s := by rw [trim, ← hs]

/-! ## statements -/

/-- Whether a text is a statement as it should be: trimmed, without a semicolon, and not of comments
alone. -/
structure IsStatement (statement : List Char) : Prop where
  nonempty : statement ≠ []
  trimmed : IsTrimmed isBlank statement
  semicolon : ';' ∉ statement
  holdsSql : ∃ line ∈ splitOn '\n' statement, HoldsSql line

/-- Whether a text is nothing but white space and comments, without a semicolon. -/
structure IsFiller (piece : List Char) : Prop where
  semicolon : ';' ∉ piece
  noSql : ∀ line ∈ splitOn '\n' piece, ¬HoldsSql line

/-- A piece is a statement, once it is trimmed, if it has a line of SQL. -/
theorem statementOf?_eq (piece : List Char) :
    statementOf? piece = if sqlLines piece = [] then none else some (trim piece) := by
  have hany : (splitOn '\n' (trim piece)).any isSqlLine = true ↔ sqlLines piece ≠ [] := by
    rw [← sqlLines_trim, sqlLines_ne_nil_iff]
    simp [isSqlLine_iff]
  rw [statementOf?]
  by_cases h : sqlLines piece = []
  · rw [if_pos h]
    exact if_neg fun hsome => hany.1 hsome h
  · rw [if_neg h]
    exact if_pos (hany.2 h)

/-- A statement is left as it is. -/
theorem statementOf?_of_isStatement (h : IsStatement s) : statementOf? s = some s := by
  rw [statementOf?_eq, if_neg (sqlLines_ne_nil_iff.2 h.holdsSql), trim,
    trimWhile_of_isTrimmed h.trimmed]

/-- A filler is passed over. -/
theorem statementOf?_of_isFiller (h : IsFiller s) : statementOf? s = none := by
  rw [statementOf?_eq, if_pos (sqlLines_eq_nil_iff.2 h.noSql)]

/-- What is made of a piece without a semicolon is a statement. -/
theorem isStatement_of_statementOf? (hpiece : ';' ∉ piece) (h : statementOf? piece = some s) :
    IsStatement s := by
  rw [statementOf?_eq] at h
  split at h
  · contradiction
  · rename_i hlines
    cases h
    obtain ⟨front, back, htrim, -, -⟩ := exists_eq_append_trimWhile isBlank piece
    have hsql : ∃ line ∈ splitOn '\n' (trim piece), HoldsSql line := by
      rw [← sqlLines_ne_nil_iff, sqlLines_trim]
      exact hlines
    refine ⟨fun hnil => hlines ?_, isTrimmed_trimWhile isBlank piece, fun hmem => hpiece ?_, hsql⟩
    · rw [← sqlLines_trim, hnil]
      rfl
    · rw [htrim]
      exact List.mem_append_left _ (List.mem_append_right _ hmem)

/-! ## putting statements together -/

/-- Statements with fillers before, between and behind them. -/
inductive Padded : List String → List String → Prop
  | nil : Padded [] []
  | statement {statements pieces : List String} (statement : String)
      (rest : Padded statements pieces) : Padded (statement :: statements) (statement :: pieces)
  | filler {statements pieces : List String} {piece : String} (filler : IsFiller piece.toList)
      (rest : Padded statements pieces) : Padded statements (piece :: pieces)

section
variable {statements pieces : List String} (padded : Padded statements pieces)
  (h : ∀ statement ∈ statements, IsStatement statement.toList)
include padded h

/-- None of the pieces has a semicolon in it. -/
theorem Padded.semicolon : ∀ piece ∈ pieces, ';' ∉ piece.toList := by
  induction padded with
  | nil => exact List.forall_mem_nil _
  | statement statement rest ih =>
    obtain ⟨hstatement, hrest⟩ := List.forall_mem_cons.1 h
    exact List.forall_mem_cons.2 ⟨hstatement.semicolon, ih hrest⟩
  | filler filler rest ih => exact List.forall_mem_cons.2 ⟨filler.semicolon, ih h⟩

/-- Of statements and fillers the statements are left. -/
theorem Padded.filterMap_statementOf? :
    (pieces.map String.toList).filterMap statementOf? = statements.map String.toList := by
  induction padded with
  | nil => rfl
  | statement statement rest ih =>
    obtain ⟨hstatement, hrest⟩ := List.forall_mem_cons.1 h
    rw [List.map_cons, List.filterMap_cons_some (statementOf?_of_isStatement hstatement), ih hrest,
      List.map_cons]
  | filler filler rest ih =>
    rw [List.map_cons, List.filterMap_cons_none (statementOf?_of_isFiller filler), ih h]

end

/-- A text without a semicolon in its pieces is cut into them again. -/
theorem schemaStatements_intercalate {pieces : List String}
    (h : ∀ piece ∈ pieces, ';' ∉ piece.toList) :
    schemaStatements (";".intercalate pieces)
      = ((pieces.map String.toList).filterMap statementOf?).map String.ofList := by
  have hsep : ";".toList = [';'] := by decide
  rw [schemaStatements, String.toList_intercalate, intercalate_eq_joinWith, hsep]
  by_cases hne : pieces = []
  · rw [hne]
    rfl
  · rw [splitOn_joinWith (by simpa using hne) (by simpa using h)]

/-! ## nothing is lost -/

/-- A line with a semicolon in it is cut. -/
theorem wholeLines_of_mem (hline : '\n' ∉ s) (h : ';' ∈ s) : wholeLines s = [] := by
  rw [wholeLines, linesWhere_of_notMem hline, if_neg (by simp [h])]

/-- A line that a semicolon cuts is none of the lines that are left. -/
theorem wholeLines_behind_sublist (ha : '\n' ∉ a) (b : List Char) :
    (wholeLines (a ++ ';' :: b)).Sublist (wholeLines b) := by
  by_cases hb : '\n' ∈ b
  · obtain ⟨line, rest, rfl, hline⟩ := List.eq_append_cons_of_mem hb
    have hcut : wholeLines (a ++ ';' :: line) = [] :=
      wholeLines_of_mem (by simp [ha, hline]) (by simp)
    rw [← List.cons_append, ← List.append_assoc, wholeLines, linesWhere_append_cons, ← wholeLines,
      hcut, List.nil_append, wholeLines, linesWhere_append_cons]
    exact List.sublist_append_right _ _
  · rw [wholeLines_of_mem (by simp [ha, hb]) (by simp)]
    exact List.nil_sublist _

/-- Lines that no semicolon cuts are lines of SQL. -/
theorem wholeLines_sublist_sqlLines (s : List Char) : (wholeLines s).Sublist (sqlLines s) := by
  have hfilter : (splitOn '\n' s).filter (fun line => ';' ∉ line ∧ isSqlLine line)
      = ((splitOn '\n' s).filter isSqlLine).filter (';' ∉ ·) := by
    simp [List.filter_filter]
  rw [wholeLines, linesWhere, hfilter]
  exact List.filter_sublist.map trim

/-- A line that no semicolon cuts is on one side of a semicolon. -/
theorem wholeLines_append_cons_sublist (a b : List Char) :
    (wholeLines (a ++ ';' :: b)).Sublist (sqlLines a ++ wholeLines b) := by
  rcases notMem_or_exists_last '\n' a with ha | ⟨before, line, rfl, hline⟩
  · exact (wholeLines_behind_sublist ha b).trans (List.sublist_append_right _ _)
  · rw [List.append_assoc, List.cons_append, wholeLines, linesWhere_append_cons, ← wholeLines,
      ← wholeLines, sqlLines, linesWhere_append_cons]
    have hbefore := (wholeLines_sublist_sqlLines before).trans
      (List.sublist_append_left _ (sqlLines line))
    exact hbefore.append (wholeLines_behind_sublist hline b)

/-- Cut at all semicolons, the pieces still have the lines that none of them cuts, in their
order. -/
theorem wholeLines_joinWith_sublist (pieces : List (List Char)) :
    (wholeLines (joinWith [';'] pieces)).Sublist (pieces.flatMap sqlLines) := by
  induction pieces with
  | nil => exact List.nil_sublist _
  | cons piece pieces ih =>
    rw [List.flatMap_cons]
    cases pieces with
    | nil => exact (wholeLines_sublist_sqlLines piece).trans (List.sublist_append_left _ _)
    | cons next pieces =>
      have hjoin : joinWith [';'] (piece :: next :: pieces)
          = piece ++ ';' :: joinWith [';'] (next :: pieces) := List.append_assoc _ _ _
      rw [hjoin]
      exact (wholeLines_append_cons_sublist _ _).trans ((List.Sublist.refl _).append ih)

/-- The lines of SQL of some pieces are those of the statements made of them. -/
theorem flatMap_sqlLines (pieces : List (List Char)) :
    (pieces.filterMap statementOf?).flatMap sqlLines = pieces.flatMap sqlLines := by
  induction pieces with
  | nil => rfl
  | cons piece pieces ih =>
    rw [List.filterMap_cons, statementOf?_eq, List.flatMap_cons, ← ih]
    by_cases hlines : sqlLines piece = []
    · rw [if_pos hlines, hlines]
      rfl
    · rw [if_neg hlines, ← sqlLines_trim piece]
      rfl

/-- Whether texts stand in another one, one behind the other. -/
def StandIn : List (List Char) → List Char → Prop
  | [], _ => True
  | first :: others, text =>
    ∃ gap rest, text = gap ++ first ++ rest ∧ StandIn others rest

/-- Texts stand in a longer text as well. -/
theorem StandIn.append {statements : List (List Char)} (h : StandIn statements s)
    (front : List Char) : StandIn statements (front ++ s) := by
  cases statements with
  | nil => trivial
  | cons first others =>
    obtain ⟨gap, rest, rfl, hrest⟩ := h
    exact ⟨front ++ gap, rest, by simp, hrest⟩

/-- Statements stand in a text as their pieces do. -/
theorem standIn_filterMap (pieces : List (List Char)) :
    StandIn (pieces.filterMap statementOf?) (joinWith [';'] pieces) := by
  induction pieces with
  | nil => trivial
  | cons piece pieces ih =>
    obtain ⟨between, hjoin⟩ := exists_joinWith_cons [';'] piece pieces
    rw [hjoin, List.filterMap_cons, statementOf?_eq]
    by_cases hlines : sqlLines piece = []
    · rw [if_pos hlines]
      exact (ih.append between).append piece
    · obtain ⟨front, back, hpiece, -, -⟩ := exists_eq_append_trimWhile isBlank piece
      rw [if_neg hlines]
      refine ⟨front, back ++ (between ++ joinWith [';'] pieces), ?_,
        (ih.append between).append back⟩
      conv => lhs; rw [hpiece]
      simp [trim]

/-- The statements are made of the pieces between semicolons. -/
theorem toList_schemaStatements (schema : String) :
    (schemaStatements schema).map String.toList
      = (splitOn ';' schema.toList).filterMap statementOf? := by
  rw [schemaStatements, List.map_map]
  exact List.map_id'' (fun _ => String.toList_ofList) _

/-- Every statement of a schema is as it should be. -/
theorem isStatement_of_mem {schema statement : String} (h : statement ∈ schemaStatements schema) :
    IsStatement statement.toList := by
  have hmem := List.mem_map_of_mem (f := String.toList) h
  rw [toList_schemaStatements] at hmem
  obtain ⟨piece, hpiece, hstatement⟩ := List.mem_filterMap.1 hmem
  exact isStatement_of_statementOf? (of_mem_splitOn hpiece).1 hstatement

/-- The lines of SQL that no semicolon cuts are lines of statements, in their order. -/
theorem wholeLines_sublist (schema : String) :
    (wholeLines schema.toList).Sublist
      ((schemaStatements schema).flatMap fun statement => sqlLines statement.toList) := by
  have hlines := wholeLines_joinWith_sublist (splitOn ';' schema.toList)
  rw [joinWith_splitOn, ← flatMap_sqlLines, ← toList_schemaStatements, List.flatMap_map] at hlines
  exact hlines

/-- Cutting a schema into statements is stable and drops no SQL.  Every statement is trimmed, has no
semicolon and is not of comments alone; statements put together with semicolons between them, and
with fillers or without, are found again.  A line of SQL that no semicolon cuts is a line of some
statement but for the white space around it; these lines are in their order, and the statements in
the order of the text. -/
theorem schemaStatements_stable (schema : String) :
    (∀ statement ∈ schemaStatements schema, IsStatement statement.toList) ∧
    (∀ pieces, Padded (schemaStatements schema) pieces →
      schemaStatements (";".intercalate pieces) = schemaStatements schema) ∧
    (∀ line ∈ splitOn '\n' schema.toList, ';' ∉ line → HoldsSql line →
      ∃ statement ∈ schemaStatements schema, ∃ other ∈ splitOn '\n' statement.toList,
        trim other = trim line) ∧
    (wholeLines schema.toList).Sublist
      ((schemaStatements schema).flatMap fun statement => sqlLines statement.toList) ∧
    StandIn ((schemaStatements schema).map String.toList) schema.toList := by
  have hstatements : ∀ statement ∈ schemaStatements schema, IsStatement statement.toList :=
    fun statement => isStatement_of_mem
  refine ⟨hstatements, fun pieces padded => ?_, fun line hline hsemicolon hsql => ?_,
    wholeLines_sublist schema, ?_⟩
  · rw [schemaStatements_intercalate (padded.semicolon hstatements),
      padded.filterMap_statementOf? hstatements, List.map_map]
    exact List.map_id'' (fun _ => String.ofList_toList) _
  · have hwhole : trim line ∈ wholeLines schema.toList := by
      refine List.mem_map_of_mem (List.mem_filter.2 ⟨hline, ?_⟩)
      exact decide_eq_true ⟨hsemicolon, isSqlLine_iff.2 hsql⟩
    obtain ⟨statement, hstatement, hmem⟩ :=
      List.mem_flatMap.1 ((wholeLines_sublist schema).mem hwhole)
    obtain ⟨other, hother, -, htrim⟩ := mem_sqlLines_iff.1 hmem
    exact ⟨statement, hstatement, other, hother, htrim⟩
  · rw [toList_schemaStatements]
    have hstand := standIn_filterMap (splitOn ';' schema.toList)
    rwa [joinWith_splitOn] at hstand

/-- Two statements, the first of two lines and behind a comment, put together with a comment between
them. -/
theorem schemaStatements_stable_commented :
    schemaStatements "-- a\n\nCREATE TABLE t\r\n(id int);\t-- b\n;CREATE INDEX i\n"
      = ["-- a\n\nCREATE TABLE t\r\n(id int)", "CREATE INDEX i"] ∧
    schemaStatements
        (";".intercalate ["-- a\n\nCREATE TABLE t\r\n(id int)", " \n-- c", "CREATE INDEX i"])
      = ["-- a\n\nCREATE TABLE t\r\n(id int)", "CREATE INDEX i"] ∧
    ∃ statement ∈ ["-- a\n\nCREATE TABLE t\r\n(id int)", "CREATE INDEX i"],
      ∃ other ∈ splitOn '\n' statement.toList, trim other = "CREATE TABLE t".toList := by
  obtain ⟨-, hstable, hlines, -⟩ := schemaStatements_stable
    "-- a\n\nCREATE TABLE t\r\n(id int);\t-- b\n;CREATE INDEX i\n"
  have hstatements : schemaStatements
      "-- a\n\nCREATE TABLE t\r\n(id int);\t-- b\n;CREATE INDEX i\n"
        = ["-- a\n\nCREATE TABLE t\r\n(id int)", "CREATE INDEX i"] := by decide
  have hfiller : IsFiller " \n-- c".toList := ⟨by decide, by decide⟩
  rw [hstatements] at hstable hlines
  refine ⟨hstatements, hstable _ (.statement _ (.filler hfiller (.statement _ .nil))), ?_⟩
  exact hlines "CREATE TABLE t\r".toList (by decide) (by decide) (by decide)

end NarIndex.Sql
