import NarIndex.Catalog.Insert

/-!
# NarIndex.Catalog.Link

Statements that relate rows.  A relation that is there already is skipped before its ends are looked
at; a new one has to lead from and to rows that are there.  A statement relates several pairs or
none.
-/

namespace NarIndex.Catalog

/-! ## one relation -/

/-- A list with a relation at the end, unless it is `there` already; both ends have to be
`sound`. -/
def relate {α : Type} (there sound : Bool) (link : α) (links : List α) :
    Except DriverError (List α) :=
  if there then .ok links
  else if sound then .ok (links ++ [link])
  else .error .foreignKeyViolated

/-- Links a NarInfo to a NAR file. -/
def linkFile (narInfo narFile : Int) (catalog : Catalog) : Except DriverError Catalog := do
  let fileLinks ← relate (catalog.isLinked narInfo narFile)
    (catalog.hasNarInfo narInfo && catalog.hasNarFile narFile) ⟨narInfo, narFile⟩ catalog.fileLinks
  return { catalog with fileLinks }

/-- Puts a chunk at a place of a NAR file; a place that is taken keeps what it has. -/
def linkChunk (link : ChunkLink) (catalog : Catalog) : Except DriverError Catalog := do
  let chunkLinks ← relate (catalog.linkAt? link.narFile link.index).isSome
    (catalog.hasNarFile link.narFile && catalog.hasChunk link.chunk) link catalog.chunkLinks
  return { catalog with chunkLinks }

/-- Adds a reference. -/
def addReference (reference : Attachment) (catalog : Catalog) : Except DriverError Catalog := do
  let references ← relate (catalog.references.contains reference)
    (catalog.hasNarInfo reference.narInfo) reference catalog.references
  return { catalog with references }

/-- Adds a signature. -/
def addSignature (signature : Attachment) (catalog : Catalog) : Except DriverError Catalog := do
  let signatures ← relate (catalog.signatures.contains signature)
    (catalog.hasNarInfo signature.narInfo) signature catalog.signatures
  return { catalog with signatures }

/-! ## several relations -/

/-- A statement that adds relations one after the other; if one of them fails, none is added. -/
def addAll {α : Type} (add : α → Catalog → Except DriverError Catalog) (links : List α) :
    Write Unit :=
  fun catalog => do
    let catalog ← links.foldlM (fun catalog link => add link catalog) catalog
    return ((), catalog)

end NarIndex.Catalog
