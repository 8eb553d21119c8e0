import NarIndex.Proofs.Catalog.Lookup
import NarIndex.Proofs.Store.Edits

/-!
# NarIndex.Proofs.Store.Lookup

What the calls answer that look for a row.  A table holds a row if this is how it is read (`Held`).
A call that looks for a row by its natural key or by its id answers with the row that the table
holds, and finds none if the table holds none; that is told once, of any table that calls reach so
(`Access`).
-/

namespace NarIndex.Store

open Catalog (Value Readable Keepable Sound SoundRows kept InRange read_kept)

/-! ## rows that a table holds -/

section held

variable {ρ : Type → Type} [Readable ρ] [Keepable ρ]

/-- A table holds a row if this is how it is read. -/
def Held (rows : List (ρ Value)) (r : ρ Int) : Prop :=
  kept r ∈ rows ∧ InRange r

/-- Of rows that are in their ranges, no two are kept alike. -/
theorem eq_of_kept_eq {r other : ρ Int} (hr : InRange r) (hother : InRange other)
    (h : kept r = kept other) : r = other := by
  have hread : Except.ok r = Except.ok other :=
    (read_kept hr).symm.trans ((congrArg Catalog.read h).trans (read_kept hother))
  exact Except.ok.inj hread

/-- Kept rows that are asked for are listed as they were. -/
theorem listed_kept {rs : List (ρ Int)} (hrange : ∀ r ∈ rs, InRange r) :
    listed (rs.map kept) = .ok rs := by
  rw [listed, Catalog.readAll_kept hrange]
  rfl

/-- The rows that meet a condition are held among all. -/
theorem held_filter {rows : List (ρ Value)} {p : ρ Value → Bool} {r : ρ Int} :
    Held (rows.filter p) r ↔ Held rows r ∧ p (kept r) := by
  rw [Held, Held, List.mem_filter, and_right_comm]

variable {κ : Type} {id : ρ Value → Int} {key : ρ Value → κ} {rows : List (ρ Value)}
  (h : SoundRows id key rows)
include h

/-- What is true of every row that a table holds is true of all that is kept in it. -/
theorem forall_held {P : ρ Value → Prop} :
    (∀ r, Held rows r → P (kept r)) ↔ ∀ row ∈ rows, P row := by
  refine ⟨fun hheld row hrow => ?_, fun hall r hr => hall (kept r) hr.1⟩
  obtain ⟨r, rfl, hrange⟩ := h.sound row hrow
  exact hheld r ⟨hrow, hrange⟩

/-- A table holds one row of a natural key at most. -/
theorem eq_of_key_eq {r other : ρ Int} (hr : Held rows r) (hother : Held rows other)
    (hkey : key (kept r) = key (kept other)) : r = other :=
  eq_of_kept_eq hr.2 hother.2 (List.inj_on_of_nodup_map h.keys_nodup hr.1 hother.1 hkey)

/-- A table holds one row with an id at most. -/
theorem eq_of_id_eq {r other : ρ Int} (hr : Held rows r) (hother : Held rows other)
    (hid : id (kept r) = id (kept other)) : r = other :=
  eq_of_kept_eq hr.2 hother.2 (List.inj_on_of_nodup_map h.ids_nodup hr.1 hother.1 hid)

/-- The rows that a table holds, each once. -/
theorem exists_held :
    ∃ rs : List (ρ Int), rows = rs.map kept ∧ rs.Nodup ∧ ∀ r, r ∈ rs ↔ Held rows r := by
  obtain ⟨rs, rfl, hrange, hids⟩ := h.exists_rows
  refine ⟨rs, rfl, hids.of_map, fun r => ⟨fun hr => ?_, fun hheld => ?_⟩⟩
  · exact ⟨List.mem_map_of_mem hr, hrange r hr⟩
  · obtain ⟨other, hother, heq⟩ := List.mem_map.1 hheld.1
    rwa [← eq_of_kept_eq (hrange other hother) hheld.2 heq]

/-- Of the rows that meet a condition, as many are listed as are asked for. -/
theorem exists_listed_page (p : ρ Value → Bool) : ∃ rs : List (ρ Int),
    rs.map kept = rows.filter p ∧ rs.Nodup ∧ (∀ r, r ∈ rs ↔ Held rows r ∧ p (kept r)) ∧
    ∀ limit, listed (Catalog.page limit 0 (Catalog.byId id (rows.filter p)))
      = .ok (rs.take limit) := by
  obtain ⟨rs, hrs, hnodup, hheld⟩ := exists_held (h.filter p)
  refine ⟨rs, hrs.symm, hnodup, fun r => (hheld r).trans held_filter, fun limit => ?_⟩
  have hrange : ∀ r ∈ rs.take limit, InRange r := fun r hr =>
    ((hheld r).1 (List.mem_of_mem_take hr)).2
  rw [(h.filter p).byId_eq, hrs, Catalog.page, List.drop_zero, ← List.map_take,
    listed_kept hrange]

end held

/-! ## rows that are looked for -/

section found

variable {ρ : Type → Type} [Readable ρ] [Keepable ρ] {entity text : String}
  {row? : Option (ρ Value)} (sound : ∀ row ∈ row?, Sound row)
include sound

/-- What is found is a row that can be read. -/
theorem found_eq_ok {r : ρ Int} :
    found entity text row? = .ok r ↔ row? = some (kept r) ∧ InRange r := by
  cases row? with
  | none => exact ⟨nofun, nofun⟩
  | some row =>
    obtain ⟨other, rfl, hother⟩ := sound row rfl
    have hfound : found entity text (some (kept other)) = .ok other := by
      rw [found, read_kept hother]
      rfl
    rw [hfound]
    constructor
    · rintro ⟨⟩
      exact ⟨rfl, hother⟩
    · rintro ⟨heq, hr⟩
      rw [eq_of_kept_eq hother hr (Option.some.inj heq)]

/-- Nothing is found where there is no row. -/
theorem found_eq_notFound {entity' text' : String} :
    found entity text row? = .error (.notFound entity' text')
      ↔ row? = none ∧ entity = entity' ∧ text = text' := by
  cases row? with
  | none => simp [found]
  | some row =>
    obtain ⟨r, rfl, hr⟩ := sound row rfl
    rw [found, read_kept hr]
    exact ⟨nofun, nofun⟩

end found

/-! ## calls -/

namespace Session

/-- A call that only reads answers so, whatever the clock shows. -/
def Answers (session : Session) (query : Query) (answer : Answer) : Prop :=
  ∀ now, (session.perform now (.read query)).1 = .ok answer

/-- A call that only reads does not find the row that it looks for. -/
def Lacks (session : Session) (query : Query) : Prop :=
  ∃ entity text, ∀ now,
    (session.perform now (.read query)).1 = .error (.notFound entity text)

/-- A session answers a query as its catalog does. -/
theorem answers_iff {session : Session} {query : Query} {answer : Answer} :
    session.Answers query answer
      ↔ query.answer session.dialect session.catalog = .ok answer :=
  ⟨fun h => h .epoch, fun h _ => h⟩

/-- A query has one answer. -/
theorem Answers.unique {session : Session} {query : Query} {answer other : Answer}
    (h : session.Answers query answer) (hother : session.Answers query other) : answer = other :=
  Except.ok.inj ((h .epoch).symm.trans (hother .epoch))

/-- A session lacks what its catalog does not find. -/
theorem lacks_iff {session : Session} {query : Query} :
    session.Lacks query ↔ ∃ entity text,
      query.answer session.dialect session.catalog = .error (.notFound entity text) :=
  ⟨fun ⟨entity, text, h⟩ => ⟨entity, text, h .epoch⟩,
    fun ⟨entity, text, h⟩ => ⟨entity, text, fun _ => h⟩⟩

/-- A call that answers does not fail to find. -/
theorem Answers.not_lacks {session : Session} {query : Query} {answer : Answer}
    (h : session.Answers query answer) : ¬ session.Lacks query := by
  rintro ⟨entity, text, hlacks⟩
  have heq := (h .epoch).symm.trans (hlacks .epoch)
  contradiction

section found

variable {ρ : Type → Type} [Readable ρ] [Keepable ρ] {session : Session} {query : Query}
  {wrap : ρ Int → Answer} {entity text : String} {row? : Option (ρ Value)}
  (hquery : query.answer session.dialect session.catalog = (found entity text row?).map wrap)
  (sound : ∀ row ∈ row?, Sound row)
include hquery sound

/-- A look-up answers with the row that it finds. -/
theorem answers_of_found (hwrap : Function.Injective wrap) {r : ρ Int} :
    session.Answers query (wrap r) ↔ row? = some (kept r) ∧ InRange r := by
  rw [answers_iff, hquery, ← @found_eq_ok _ _ _ entity text row? sound]
  constructor
  · intro h
    obtain ⟨other, hother, heq⟩ := map_eq_ok h
    rw [hother, hwrap heq]
  · intro h
    rw [h]
    rfl

theorem lacks_of_found : session.Lacks query ↔ row? = none := by
  rw [lacks_iff, hquery]
  constructor
  · rintro ⟨entity', text', h⟩
    exact ((found_eq_notFound sound).1 (map_eq_error h)).1
  · rintro rfl
    exact ⟨entity, text, rfl⟩

end found

end Session

/-! ## tables that calls reach by key and by id -/

/-- A table whose rows calls reach in two ways, by natural key and by id. -/
structure Access (ρ : Type → Type) [Readable ρ] [Keepable ρ] (κ : Type) [BEq κ] where
  rows : Catalog → List (ρ Value)
  id {ν : Type} : ρ ν → Int
  key {ν : Type} : ρ ν → κ
  byKey : κ → Query
  byId : Int → Query
  answer : ρ Int → Answer
  entity : String
  text : κ → String
  id_kept : ∀ r : ρ Int, id (kept r) = id r := by exact fun _ => rfl
  key_kept : ∀ r : ρ Int, key (kept r) = key r := by exact fun _ => rfl
  answer_injective : Function.Injective answer := by exact fun _ _ h => by cases h; rfl
  sound : ∀ {catalog}, catalog.WellFormed → SoundRows id key (rows catalog)
  byKey_answer : ∀ dialect catalog k, (byKey k).answer dialect catalog
    = (found entity (text k) ((rows catalog).find? (key · == k))).map answer := by
      exact fun _ _ _ => rfl
  byId_answer : ∀ dialect catalog i, (byId i).answer dialect catalog
    = (found entity (toString i) ((rows catalog).find? (id · == i))).map answer := by
      exact fun _ _ _ => rfl

namespace Access

def narInfos : Access NarInfo String where
  rows := Catalog.narInfos
  id := NarInfo.id
  key := NarInfo.hash
  byKey := .narInfoByHash
  byId := .narInfoById
  answer := .narInfo
  entity := "narinfo"
  text := fun hash => hash
  sound := (·.narInfos)

def narFiles : Access NarFile NarFile.Key where
  rows := Catalog.narFiles
  id := NarFile.id
  key := NarFile.key
  byKey := .narFileByKey
  byId := .narFileById
  answer := .narFile
  entity := "nar file"
  text := NarFile.Key.text
  sound := (·.narFiles)

def chunks : Access Chunk String where
  rows := Catalog.chunks
  id := Chunk.id
  key := Chunk.hash
  byKey := .chunkByHash
  byId := .chunkById
  answer := .chunk
  entity := "chunk"
  text := fun hash => hash
  sound := (·.chunks)

def settings : Access Setting String where
  rows := Catalog.settings
  id := Setting.id
  key := Setting.key
  byKey := .settingByKey
  byId := .settingById
  answer := .setting
  entity := "config"
  text := fun key => key
  sound := (·.settings)

variable {ρ : Type → Type} [Readable ρ] [Keepable ρ] {κ : Type} [BEq κ] (access : Access ρ κ)
  {session : Session} (h : session.catalog.WellFormed)
include h

/-- A look-up by id answers with the row of that id. -/
theorem answers_byId {n : Int} {r : ρ Int} :
    session.Answers (access.byId n) (access.answer r)
      ↔ Held (access.rows session.catalog) r ∧ access.id r = n := by
  have hrows := access.sound h
  rw [Session.answers_of_found (access.byId_answer _ _ n)
    (fun row hrow => hrows.sound row (List.mem_of_find?_eq_some hrow)) access.answer_injective,
    hrows.find?_id_eq_some, access.id_kept, Held, and_right_comm]

/-- It finds nothing just if no row has the id. -/
theorem lacks_byId {n : Int} :
    session.Lacks (access.byId n)
      ↔ ∀ r, Held (access.rows session.catalog) r → access.id r ≠ n := by
  have hrows := access.sound h
  rw [Session.lacks_of_found (access.byId_answer _ _ n)
    (fun row hrow => hrows.sound row (List.mem_of_find?_eq_some hrow)),
    Catalog.find?_column_eq_none, ← forall_held hrows]
  simp only [access.id_kept]

variable [LawfulBEq κ]

/-- A look-up by key answers with the row of that key. -/
theorem answers_byKey {k : κ} {r : ρ Int} :
    session.Answers (access.byKey k) (access.answer r)
      ↔ Held (access.rows session.catalog) r ∧ access.key r = k := by
  have hrows := access.sound h
  rw [Session.answers_of_found (access.byKey_answer _ _ k)
    (fun row hrow => hrows.sound row (List.mem_of_find?_eq_some hrow)) access.answer_injective,
    hrows.find?_key_eq_some, access.key_kept, Held, and_right_comm]

/-- It finds nothing just if no row has the key. -/
theorem lacks_byKey {k : κ} :
    session.Lacks (access.byKey k)
      ↔ ∀ r, Held (access.rows session.catalog) r → access.key r ≠ k := by
  have hrows := access.sound h
  rw [Session.lacks_of_found (access.byKey_answer _ _ k)
    (fun row hrow => hrows.sound row (List.mem_of_find?_eq_some hrow)),
    Catalog.find?_column_eq_none, ← forall_held hrows]
  simp only [access.key_kept]

omit [LawfulBEq κ]

/-! ### the first of several rows -/

variable {query : Query} {entity text : String} {p : ρ Value → Bool}
  (hquery : query.answer session.dialect session.catalog
    = (found entity text
        (Catalog.byId access.id ((access.rows session.catalog).filter p)).head?).map access.answer)
include hquery

/-- A call that goes by a condition answers with the row of the lowest id that meets it. -/
theorem answers_first {r : ρ Int} : session.Answers query (access.answer r)
    ↔ Held (access.rows session.catalog) r ∧ p (kept r) ∧
        ∀ other, Held (access.rows session.catalog) other → p (kept other) →
          access.id r ≤ access.id other := by
  have hrows := access.sound h
  have hleast := forall_held hrows (P := fun row => p row → access.id r ≤ access.id row)
  simp only [access.id_kept] at hleast
  rw [Session.answers_of_found hquery (fun row hrow => hrows.sound row
      (Catalog.mem_of_mem_byId_filter (List.mem_of_head? hrow))) access.answer_injective,
    hrows.head?_eq_some, access.id_kept, ← hleast, Held, and_right_comm]

/-- It finds none if none meets the condition. -/
theorem lacks_first : session.Lacks query
    ↔ ∀ r, Held (access.rows session.catalog) r → p (kept r) = false := by
  have hrows := access.sound h
  rw [Session.lacks_of_found hquery (fun row hrow => hrows.sound row
      (Catalog.mem_of_mem_byId_filter (List.mem_of_head? hrow))), hrows.head?_eq_none]
  exact (forall_held hrows).symm

end Access

end NarIndex.Store
