import NarIndex.Proofs.Catalog.Edit

/-!
# NarIndex.Proofs.Catalog.WellFormed

What the tables promise: rows are told apart by their ids and by their natural keys, all of them can
be read, and relations lead to rows that are there, each relation once.  Every edit keeps that
(`WellFormed.edit`): what comes in has been checked, what changes keeps its id and its key, and
where rows go the relations that would dangle go with them.
-/

namespace NarIndex.Catalog

/-! ## tables of sound rows -/

/-- Rows told apart by their ids and by their natural keys, each of which can be read. -/
structure SoundRows {ρ : Type → Type} [Readable ρ] [Keepable ρ] {κ : Type} (id : ρ Value → Int)
    (key : ρ Value → κ) (rows : List (ρ Value)) : Prop extends Keyed id key rows where
  sound : ∀ row ∈ rows, Sound row

namespace SoundRows

variable {ρ : Type → Type} [Readable ρ] [Keepable ρ] {κ : Type} {id : ρ Value → Int}
  {key : ρ Value → κ} {rows : List (ρ Value)}

theorem nil : SoundRows id key [] :=
  ⟨.nil, by simp⟩

/-- A sound row with the next id and a key by which none is found comes in. -/
theorem append [BEq κ] [LawfulBEq κ] (h : SoundRows id key rows) {row : ρ Value}
    (hid : id row = nextId (rows.map id)) (absent : rows.find? (key · == key row) = none)
    (hrow : Sound row) : SoundRows id key (rows ++ [row]) where
  toKeyed := h.toKeyed.append hid (notMem_keys_of_find?_eq_none absent)
  sound := forall_append_singleton h.sound hrow

/-- Rows go. -/
theorem filter (h : SoundRows id key rows) (p : ρ Value → Bool) :
    SoundRows id key (rows.filter p) where
  toKeyed := h.toKeyed.filter p
  sound row hrow := h.sound row (List.mem_filter.1 hrow).1

/-- Rows change, but for their ids and keys, and stay sound. -/
theorem mapWhere (h : SoundRows id key rows) (p : ρ Value → Bool) {f : ρ Value → ρ Value}
    (hid : ∀ row, id (f row) = id row) (hkey : ∀ row, key (f row) = key row)
    (hsound : ∀ {row}, Sound row → Sound (f row)) : SoundRows id key (mapWhere p f rows) where
  toKeyed := h.toKeyed.mapWhere p hid hkey
  sound := forall_mapWhere h.sound fun _ => hsound

/-- The rows are kept from rows whose sizes and times are in their ranges, and which have different
ids as well. -/
theorem exists_rows (h : SoundRows id key rows) : ∃ rs : List (ρ Int),
    rows = rs.map kept ∧ (∀ r ∈ rs, InRange r) ∧ (rs.map fun r => id (kept r)).Nodup := by
  obtain ⟨rs, rfl, hrange⟩ := exists_kept h.sound
  have hids := h.ids_nodup
  rw [List.map_map] at hids
  exact ⟨rs, rfl, hrange, hids⟩

/-- The rows that are read are those. -/
theorem rows_of_readAll (h : SoundRows id key rows) {rs : List (ρ Int)}
    (hread : readAll rows = .ok rs) :
    rows = rs.map kept ∧ (∀ r ∈ rs, InRange r) ∧ (rs.map fun r => id (kept r)).Nodup := by
  obtain ⟨other, rfl, hrange, hids⟩ := h.exists_rows
  obtain rfl := Except.ok.inj ((readAll_kept hrange).symm.trans hread)
  exact ⟨rfl, hrange, hids⟩

end SoundRows

/-- A row that is there, and that none of the rows that go has the id of, stays. -/
theorem any_filter_of_survives {α : Type} {id : α → Int} {p : α → Bool} {rows : List α}
    {owner : Int} (there : rows.any (id · == owner)) (stays : survives id (rows.filter p) owner) :
    (rows.filter (!p ·)).any (id · == owner) := by
  obtain ⟨row, hrow, hid⟩ := List.any_eq_true.1 there
  cases hp : p row with
  | true =>
    have hgone : (rows.filter p).any (id · == owner) :=
      List.any_eq_true.2 ⟨row, List.mem_filter.2 ⟨hrow, hp⟩, hid⟩
    rw [survives, hgone] at stays
    contradiction
  | false => exact List.any_eq_true.2 ⟨row, List.mem_filter.2 ⟨hrow, by rw [hp]; rfl⟩, hid⟩

/-- A row that is there stays when another one comes in. -/
theorem any_append_of_any {α : Type} {p : α → Bool} {rows : List α} (there : rows.any p) (row : α) :
    (rows ++ [row]).any p := by
  rw [List.any_append, there, Bool.true_or]

/-! ## the promise -/

/-- The tables as the schema and the calls keep them. -/
structure WellFormed (catalog : Catalog) : Prop where
  narInfos : SoundRows (·.id) (·.hash) catalog.narInfos
  narFiles : SoundRows (·.id) (·.key) catalog.narFiles
  chunks : SoundRows (·.id) (·.hash) catalog.chunks
  settings : SoundRows (·.id) (·.key) catalog.settings
  references : Linked id (catalog.hasNarInfo ·.narInfo) catalog.references
  signatures : Linked id (catalog.hasNarInfo ·.narInfo) catalog.signatures
  fileLinks :
    Linked id (fun link => catalog.hasNarInfo link.narInfo ∧ catalog.hasNarFile link.narFile)
      catalog.fileLinks
  chunkLinks :
    Linked (fun link => (link.narFile, link.index))
      (fun link => catalog.hasNarFile link.narFile ∧ catalog.hasChunk link.chunk)
      catalog.chunkLinks

namespace WellFormed

variable {catalog after : Catalog}

/-- Empty tables are well formed. -/
theorem empty : WellFormed {} :=
  ⟨.nil, .nil, .nil, .nil, .nil, .nil, .nil, .nil⟩

/-! ## rows that come in or change -/

/-- Other NarInfos among which none of the old ids is missing. -/
theorem withNarInfos (h : catalog.WellFormed) {rows : List (NarInfo Value)}
    (table : SoundRows (·.id) (·.hash) rows)
    (stay : ∀ id, catalog.hasNarInfo id → rows.any (·.id == id)) :
    WellFormed { catalog with narInfos := rows } :=
  { h with
    narInfos := table
    references := h.references.mono fun reference => stay reference.narInfo
    signatures := h.signatures.mono fun signature => stay signature.narInfo
    fileLinks := h.fileLinks.mono fun link => And.imp_left (stay link.narInfo) }

/-- Other NAR files among which none of the old ids is missing. -/
theorem withNarFiles (h : catalog.WellFormed) {rows : List (NarFile Value)}
    (table : SoundRows (·.id) (·.key) rows)
    (stay : ∀ id, catalog.hasNarFile id → rows.any (·.id == id)) :
    WellFormed { catalog with narFiles := rows } :=
  { h with
    narFiles := table
    fileLinks := h.fileLinks.mono fun link => And.imp_right (stay link.narFile)
    chunkLinks := h.chunkLinks.mono fun link => And.imp_left (stay link.narFile) }

/-- Other chunks among which none of the old ids is missing. -/
theorem withChunks (h : catalog.WellFormed) {rows : List (Chunk Value)}
    (table : SoundRows (·.id) (·.hash) rows)
    (stay : ∀ id, catalog.hasChunk id → rows.any (·.id == id)) :
    WellFormed { catalog with chunks := rows } :=
  { h with
    chunks := table
    chunkLinks := h.chunkLinks.mono fun link => And.imp_right (stay link.chunk) }

/-- Other settings. -/
theorem withSettings (h : catalog.WellFormed) {rows : List (Setting Value)}
    (table : SoundRows (·.id) (·.key) rows) : WellFormed { catalog with settings := rows } :=
  { h with settings := table }

/-! ## rows that go -/

/-- Tables stay well formed when NarInfos go. -/
theorem withoutNarInfos (h : catalog.WellFormed) (p : NarInfo Value → Bool) :
    (catalog.withoutNarInfos p).WellFormed :=
  { h with
    narInfos := h.narInfos.filter _
    references := h.references.filter fun _ owner => any_filter_of_survives owner
    signatures := h.signatures.filter fun _ owner => any_filter_of_survives owner
    fileLinks := h.fileLinks.filter fun _ ends stays =>
      ⟨any_filter_of_survives ends.1 stays, ends.2⟩ }

theorem withoutNarFiles (h : catalog.WellFormed) (p : NarFile Value → Bool) :
    (catalog.withoutNarFiles p).WellFormed :=
  { h with
    narFiles := h.narFiles.filter _
    fileLinks := h.fileLinks.filter fun _ ends stays =>
      ⟨ends.1, any_filter_of_survives ends.2 stays⟩
    chunkLinks := h.chunkLinks.filter fun _ ends stays =>
      ⟨any_filter_of_survives ends.1 stays, ends.2⟩ }

theorem withoutChunks (h : catalog.WellFormed) (p : Chunk Value → Bool) :
    (catalog.withoutChunks p).WellFormed :=
  { h with
    chunks := h.chunks.filter _
    chunkLinks := h.chunkLinks.filter fun _ ends stays =>
      ⟨ends.1, any_filter_of_survives ends.2 stays⟩ }

/-! ## edits -/

/-- Every edit keeps the tables well formed. -/
theorem edit (hedit : Edit catalog after) (h : catalog.WellFormed) : after.WellFormed := by
  cases hedit with
  | @addNarInfo hash details now absent fits =>
    have hrow := NarInfo.sound_fresh fits (nextId (catalog.narInfos.map (·.id))) hash now
    exact h.withNarInfos (h.narInfos.append rfl absent hrow) fun _ there =>
      any_append_of_any there _
  | alterNarInfos p alters =>
    refine h.withNarInfos (h.narInfos.mapWhere p alters.id_eq alters.hash_eq alters.sound) ?_
    intro id there
    rwa [any_mapWhere fun row => by rw [alters.id_eq]]
  | dropNarInfos p => exact h.withoutNarInfos p
  | @addNarFile key fileSize totalChunks now absent sizeFits chunksFit =>
    have hrow :=
      NarFile.sound_fresh sizeFits chunksFit (nextId (catalog.narFiles.map (·.id))) key now
    exact h.withNarFiles (h.narFiles.append rfl absent hrow) fun _ there =>
      any_append_of_any there _
  | alterNarFiles p alters =>
    refine h.withNarFiles (h.narFiles.mapWhere p alters.id_eq alters.key_eq alters.sound) ?_
    intro id there
    rwa [any_mapWhere fun row => by rw [alters.id_eq]]
  | dropNarFiles p => exact h.withoutNarFiles p
  | @addChunk hash size now absent fits =>
    have hrow := Chunk.sound_fresh fits (nextId (catalog.chunks.map (·.id))) hash now
    exact h.withChunks (h.chunks.append rfl absent hrow) fun _ there => any_append_of_any there _
  | dropChunks p => exact h.withoutChunks p
  | @addSetting key value now absent =>
    have hrow := Setting.sound_fresh (nextId (catalog.settings.map (·.id))) key value now
    exact h.withSettings (h.settings.append rfl absent hrow)
  | overwriteSettings p value now =>
    exact h.withSettings (h.settings.mapWhere p (fun _ => rfl) (fun _ => rfl)
      (Setting.sound_overwritten value now))
  | addReference new owner =>
    exact { h with references := h.references.append owner (by rwa [List.map_id]) }
  | addSignature new owner =>
    exact { h with signatures := h.signatures.append owner (by rwa [List.map_id]) }
  | linkFile new narInfo narFile =>
    exact { h with fileLinks := h.fileLinks.append ⟨narInfo, narFile⟩ (by rwa [List.map_id]) }
  | @linkChunk link free narFile chunk =>
    have hfree : (link.narFile, link.index)
        ∉ catalog.chunkLinks.map fun link => (link.narFile, link.index) :=
      notMem_keys_of_find?_eq_none free
    exact { h with chunkLinks := h.chunkLinks.append ⟨narFile, chunk⟩ hfree }

end WellFormed

end NarIndex.Catalog
