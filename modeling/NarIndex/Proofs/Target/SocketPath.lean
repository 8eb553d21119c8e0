import NarIndex.Proofs.Text.Split
import NarIndex.Target.SocketPath

/-!
# NarIndex.Proofs.Target.SocketPath

Cleaning gives a path its canonical form: the segments that lead somewhere, behind single slashes
(`isCleaned_cleanPath`).  Which paths name a socket and a database, and which they name
(`ofPath_eq_ok_iff`): the database stands behind the last slash, and the socket is the cleaned
directory before it.
-/

namespace NarIndex.Target

open NarIndex.Text

variable {path directory database : List Char} {place : SocketPath}

/-! ## cleaning -/

/-- Segments that lead somewhere are neither empty nor a dot, and have no slash. -/
theorem of_mem_segments {segment : List Char} (h : segment ∈ segments path) :
    segment ≠ [] ∧ '/' ∉ segment ∧ segment ≠ ['.'] := by
  obtain ⟨hpiece, hleads⟩ := List.mem_filter.1 h
  obtain ⟨hne, hdot⟩ := decide_eq_true_iff.1 hleads
  exact ⟨hne, (of_mem_splitOn hpiece).1, hdot⟩

theorem segments_nil : segments [] = [] :=
  rfl

theorem segments_root (path : List Char) : segments ('/' :: path) = segments path := by
  rw [segments, splitOn, if_pos rfl, List.filter_cons_of_neg (by simp), ← segments]

/-- Segments that lead somewhere are those of the path that is put together from them. -/
theorem segments_joinWith {pieces : List (List Char)}
    (h : ∀ piece ∈ pieces, piece ≠ [] ∧ '/' ∉ piece ∧ piece ≠ ['.']) :
    segments (joinWith ['/'] pieces) = pieces := by
  by_cases hne : pieces = []
  · rw [hne]
    exact segments_nil
  · rw [segments, splitOn_joinWith hne fun piece hpiece => (h piece hpiece).2.1]
    exact List.filter_eq_self.2 fun piece hpiece =>
      decide_eq_true ⟨(h piece hpiece).1, (h piece hpiece).2.2⟩

/-- A path has a slash in front of its segments if it had one. -/
theorem cleanPath_eq (path : List Char) :
    cleanPath path
      = (if path.head? = some '/' then ['/'] else []) ++ joinWith ['/'] (segments path) := by
  rw [cleanPath]
  split <;> rfl

/-- Cleaning leaves the segments that lead somewhere. -/
theorem segments_cleanPath (path : List Char) : segments (cleanPath path) = segments path := by
  have hsegments : segments (joinWith ['/'] (segments path)) = segments path :=
    segments_joinWith fun _ => of_mem_segments
  rw [cleanPath_eq]
  split
  · rw [List.singleton_append, segments_root, hsegments]
  · rw [List.nil_append, hsegments]

/-- What is put together from segments has no slash in front. -/
theorem head?_joinWith_segments (path : List Char) :
    (joinWith ['/'] (segments path)).head? ≠ some '/' := by
  cases hsegments : segments path with
  | nil => simp [joinWith]
  | cons segment more =>
    have hmem : segment ∈ segments path := hsegments ▸ List.mem_cons_self
    obtain ⟨hne, hslash, -⟩ := of_mem_segments hmem
    obtain ⟨c, rest, rfl⟩ := List.exists_cons_of_ne_nil hne
    have hc : c ≠ '/' := fun heq => hslash (heq ▸ List.mem_cons_self)
    obtain ⟨behind, hjoin⟩ := exists_joinWith_eq_cons ['/'] c rest more
    rw [hjoin]
    simpa using hc

/-- A clean path has its root if it had one. -/
theorem head?_cleanPath (path : List Char) :
    (cleanPath path).head? = some '/' ↔ path.head? = some '/' := by
  rw [cleanPath_eq]
  by_cases hroot : path.head? = some '/'
  · simp [hroot]
  · simp [hroot, head?_joinWith_segments]

/-- Cleaning twice is cleaning once. -/
theorem cleanPath_cleanPath (path : List Char) : cleanPath (cleanPath path) = cleanPath path := by
  rw [cleanPath_eq (cleanPath path), segments_cleanPath]
  simp only [head?_cleanPath]
  exact (cleanPath_eq path).symm

/-- Something is left of a path but its root if one of its segments leads somewhere. -/
theorem cleanPath_eq_root_iff :
    (cleanPath path = [] ∨ cleanPath path = ['/']) ↔ segments path = [] := by
  constructor
  · rintro (h | h)
    · rw [← segments_cleanPath, h, segments_nil]
    · rw [← segments_cleanPath, h, segments_root, segments_nil]
  · intro h
    rw [cleanPath_eq, h, joinWith, List.append_nil]
    split <;> simp

section
variable {pieces : List (List Char)}

/-- Segments that lead somewhere are those of the rooted path that is put together from them. -/
theorem segments_flatMap (hne : pieces ≠ [])
    (h : ∀ piece ∈ pieces, piece ≠ [] ∧ '/' ∉ piece ∧ piece ≠ ['.']) :
    segments (pieces.flatMap ('/' :: ·)) = pieces := by
  obtain ⟨piece, more, rfl⟩ := List.exists_cons_of_ne_nil hne
  rw [flatMap_cons_eq_joinWith, segments_root, segments_joinWith h]

/-- A path put together from them is clean. -/
theorem cleanPath_flatMap (hne : pieces ≠ [])
    (h : ∀ piece ∈ pieces, piece ≠ [] ∧ '/' ∉ piece ∧ piece ≠ ['.']) :
    cleanPath (pieces.flatMap ('/' :: ·)) = pieces.flatMap ('/' :: ·) := by
  rw [cleanPath, segments_flatMap hne h]
  obtain ⟨piece, more, rfl⟩ := List.exists_cons_of_ne_nil hne
  rw [flatMap_cons_eq_joinWith]
  exact if_pos rfl

end

/-! ## clean paths -/

/-- A path that is put together from those segments of another one that lead somewhere, with its
root. -/
structure IsCleaned (path cleaned : List Char) : Prop where
  rooted : cleaned.head? = some '/' ↔ path.head? = some '/'
  joined : cleaned
    = (if path.head? = some '/' then ['/'] else []) ++ joinWith ['/'] (segments path)
  pieces : segments path ≠ [] →
    splitOn '/' cleaned = (if path.head? = some '/' then [[]] else []) ++ segments path
  single : ¬['/', '/'] <:+: cleaned
  ending : ['/'] <:+ cleaned → cleaned = ['/']

/-- Between its slashes a clean path has those segments and no others, behind the root. -/
theorem splitOn_cleanPath (h : segments path ≠ []) :
    splitOn '/' (cleanPath path)
      = (if path.head? = some '/' then [[]] else []) ++ segments path := by
  have hsplit := splitOn_joinWith h fun segment hsegment => (of_mem_segments hsegment).2.1
  rw [cleanPath_eq]
  split
  · rw [List.singleton_append, splitOn, if_pos rfl, hsplit, List.singleton_append]
  · rw [List.nil_append, List.nil_append, hsplit]

/-- Behind every slash of a clean path stands the beginning of a segment, unless there is nothing
but the root. -/
theorem exists_head?_of_cleanPath {front rest : List Char}
    (h : cleanPath path = front ++ '/' :: rest) (hsegments : segments path ≠ []) :
    ∃ c, rest.head? = some c ∧ c ≠ '/' := by
  have hsplit := splitOn_cleanPath hsegments
  obtain ⟨first, pieces, hfront⟩ := List.exists_cons_of_ne_nil (splitOn_ne_nil '/' front)
  obtain ⟨segment, more, hrest⟩ := List.exists_cons_of_ne_nil (splitOn_ne_nil '/' rest)
  rw [h, splitOn_append_cons, hfront, hrest] at hsplit
  -- the root can only be the first of the pieces, and that stands before the slash
  have hmem : segment ∈ segments path := by
    have htail := congrArg List.tail hsplit
    rw [List.cons_append, List.tail_cons] at htail
    have hsegment : segment ∈ pieces ++ segment :: more := by simp
    rw [htail] at hsegment
    split at hsegment
    · exact hsegment
    · exact List.mem_of_mem_tail hsegment
  obtain ⟨hne, hslash, -⟩ := of_mem_segments hmem
  obtain ⟨c, behind, rfl⟩ := List.exists_cons_of_ne_nil hne
  obtain ⟨tail, hjoin⟩ := exists_joinWith_eq_cons ['/'] c behind more
  rw [← hrest, joinWith_splitOn] at hjoin
  exact ⟨c, by rw [hjoin, List.head?_cons], fun heq => hslash (heq ▸ List.mem_cons_self)⟩

/-- Cleaning gives the canonical form. -/
theorem isCleaned_cleanPath (path : List Char) : IsCleaned path (cleanPath path) where
  rooted := head?_cleanPath path
  joined := cleanPath_eq path
  pieces := splitOn_cleanPath
  single := by
    rintro ⟨front, rest, h⟩
    by_cases hsegments : segments path = []
    · have hlength := congrArg List.length h
      have hle : (cleanPath path).length ≤ 1 := by
        rcases cleanPath_eq_root_iff.2 hsegments with hroot | hroot <;> simp [hroot]
      simp only [List.length_append, List.length_cons, List.length_nil] at hlength
      omega
    · have hslashes : cleanPath path = front ++ '/' :: '/' :: rest := by simp [← h]
      obtain ⟨c, hc, hne⟩ := exists_head?_of_cleanPath hslashes hsegments
      exact hne (Option.some.inj hc).symm
  ending := by
    rintro ⟨front, h⟩
    by_cases hsegments : segments path = []
    · rcases cleanPath_eq_root_iff.2 hsegments with hroot | hroot
      · simp [hroot] at h
      · exact hroot
    · obtain ⟨c, hc, -⟩ := exists_head?_of_cleanPath h.symm hsegments
      contradiction

/-! ## sockets -/

/-- The database is what stands behind the last slash, and the socket what stands before it. -/
theorem ofPath_append (h : '/' ∉ database) :
    SocketPath.ofPath (directory ++ '/' :: database) =
      if database = [] then .error .noDatabase
      else if segments directory = [] then .error .noSocket
      else .ok ⟨cleanPath directory, database⟩ := by
  simp only [SocketPath.ofPath, cutLast?_append_cons_of_notMem h, Option.getD_some,
    cleanPath_eq_root_iff]

/-- A path without a slash names no socket. -/
theorem ofPath_of_notMem (h : '/' ∉ path) : ∃ problem, SocketPath.ofPath path = .error problem := by
  rw [SocketPath.ofPath, cutLast?_of_notMem h]
  by_cases hempty : path = []
  · exact ⟨.noDatabase, if_pos hempty⟩
  · exact ⟨.noSocket, if_neg hempty⟩

/-- The socket and the database that a path names. -/
theorem ofPath_eq_ok_iff :
    SocketPath.ofPath path = .ok place ↔
      ∃ directory, path = directory ++ '/' :: place.database ∧ '/' ∉ place.database ∧
        place.database ≠ [] ∧ segments directory ≠ [] ∧ place.socket = cleanPath directory := by
  constructor
  · intro h
    rcases notMem_or_exists_last '/' path with hslash | ⟨directory, database, rfl, hslash⟩
    · obtain ⟨problem, hproblem⟩ := ofPath_of_notMem hslash
      cases hproblem.symm.trans h
    · rw [ofPath_append hslash] at h
      split at h
      · contradiction
      · split at h
        · contradiction
        · cases h
          exact ⟨directory, rfl, hslash, ‹_›, ‹_›, rfl⟩
  · rintro ⟨directory, rfl, hslash, hdatabase, hsegments, hsocket⟩
    rw [ofPath_append hslash, if_neg hdatabase, if_neg hsegments, ← hsocket]

/-- Whether a path names a socket and a database: it has text behind its last slash, and a segment
that leads somewhere before it. -/
def NamesSocket (path : List Char) : Prop :=
  ∃ directory database, path = directory ++ '/' :: database ∧ '/' ∉ database ∧ database ≠ [] ∧
    ∃ segment ∈ splitOn '/' directory, segment ≠ [] ∧ segment ≠ ['.']

/-- A path that names a socket is one that the store accepts. -/
theorem namesSocket_iff : NamesSocket path ↔ ∃ place, SocketPath.ofPath path = .ok place := by
  have hleads (directory : List Char) :
      (∃ segment ∈ splitOn '/' directory, segment ≠ [] ∧ segment ≠ ['.']) ↔
        segments directory ≠ [] := by
    simp [segments, List.filter_eq_nil_iff]
  constructor
  · rintro ⟨directory, database, rfl, hslash, hdatabase, hsegments⟩
    exact ⟨⟨cleanPath directory, database⟩,
      ofPath_eq_ok_iff.2 ⟨directory, rfl, hslash, hdatabase, (hleads directory).1 hsegments, rfl⟩⟩
  · rintro ⟨place, h⟩
    obtain ⟨directory, hpath, hslash, hdatabase, hsegments, -⟩ := ofPath_eq_ok_iff.1 h
    exact ⟨directory, place.database, hpath, hslash, hdatabase, (hleads directory).2 hsegments⟩

/-- A path that cleaning leaves alone. -/
def IsClean (path : List Char) : Prop :=
  cleanPath path = path

/-- Paths of sockets have a canonical form.  Cleaning a path leaves those of its segments that lead
somewhere, and is done once and for all.  A path names a socket and a database just when there is
text behind its last slash and a segment that leads somewhere before it; then the database is that
text, and the socket is the rest, cleaned.  A clean path with a segment and a database are found
again when they are put together. -/
theorem canonical_paths :
    (∀ path, IsCleaned path (cleanPath path) ∧ IsClean (cleanPath path)) ∧
    (∀ path, (∃ place, SocketPath.ofPath path = .ok place) ↔ NamesSocket path) ∧
    (∀ path place, SocketPath.ofPath path = .ok place → ∃ directory,
      path = directory ++ '/' :: place.database ∧ '/' ∉ place.database ∧
        place.socket = cleanPath directory) ∧
    ∀ socket database, IsClean socket → segments socket ≠ [] → database ≠ [] → '/' ∉ database →
      SocketPath.ofPath (socket ++ '/' :: database) = .ok ⟨socket, database⟩ := by
  refine ⟨fun path => ⟨isCleaned_cleanPath path, cleanPath_cleanPath path⟩,
    fun path => namesSocket_iff.symm, fun path place h => ?_,
    fun socket database hclean hsegments hdatabase hslash => ?_⟩
  · obtain ⟨directory, hpath, hslash, -, -, hsocket⟩ := ofPath_eq_ok_iff.1 h
    exact ⟨directory, hpath, hslash, hsocket⟩
  · exact ofPath_eq_ok_iff.2 ⟨socket, rfl, hslash, hdatabase, hsegments, hclean.symm⟩

/-- A relative socket in a path with a dot and with slashes that lead nowhere, and the path that is
put together from what is found there. -/
theorem canonical_paths_relative :
    SocketPath.ofPath "run/.//pg//db".toList = .ok ⟨"run/pg".toList, "db".toList⟩ ∧
      (∃ directory, "run/.//pg//db".toList = directory ++ '/' :: "db".toList ∧
        "run/pg".toList = cleanPath directory) ∧
      SocketPath.ofPath "run/pg/db".toList = .ok ⟨"run/pg".toList, "db".toList⟩ := by
  have hpath : SocketPath.ofPath "run/.//pg//db".toList
      = .ok ⟨"run/pg".toList, "db".toList⟩ := rfl
  obtain ⟨directory, hdirectory, -, hsocket⟩ := canonical_paths.2.2.1 _ _ hpath
  have hclean : IsClean "run/pg".toList := by
    rw [show "run/pg".toList = cleanPath directory from hsocket]
    exact (canonical_paths.1 directory).2
  exact ⟨hpath, ⟨directory, hdirectory, hsocket⟩, canonical_paths.2.2.2 "run/pg".toList
    "db".toList hclean (by decide) (by decide) (by decide)⟩

end NarIndex.Target
