import NarIndex.Proofs.Catalog.Relation
import NarIndex.Proofs.Catalog.WellFormed
import NarIndex.Proofs.Text.Order

/-!
# NarIndex.Proofs.Catalog.Attachment

Texts that belong to NarInfos, of two kinds, each kept in a table of its own.  Where the NarInfo is
there, any texts can be added, in any order and with any repetition, and in the end those are there
that were or were added (`Kind.addEach_of_owner`); where it is not, already the first text is
refused (`WellFormed.add_of_absent`).  The texts of one NarInfo are listed each once, in the order
of their bytes (`textsOf_ascends`).
-/

namespace NarIndex

open Catalog

/-! ## kinds -/

/-- The kinds of texts that belong to a NarInfo. -/
inductive Attachment.Kind where
  | reference
  | signature
  deriving DecidableEq, Repr

namespace Attachment.Kind

/-- The table of a kind. -/
def table : Attachment.Kind → Catalog → List Attachment
  | reference => Catalog.references
  | signature => Catalog.signatures

/-- The tables with another one for a kind. -/
def withTable (attachments : List Attachment) (catalog : Catalog) : Attachment.Kind → Catalog
  | reference => { catalog with references := attachments }
  | signature => { catalog with signatures := attachments }

/-- Adds a text of a kind. -/
def add : Attachment.Kind → Attachment → Catalog → Except DriverError Catalog
  | reference => addReference
  | signature => addSignature

section tables

variable {kind other : Attachment.Kind} {attachments more : List Attachment} {catalog : Catalog}

@[simp] theorem table_withTable :
    kind.table (kind.withTable attachments catalog) = attachments := by
  cases kind <;> rfl

@[simp] theorem withTable_withTable :
    kind.withTable more (kind.withTable attachments catalog) = kind.withTable more catalog := by
  cases kind <;> rfl

@[simp] theorem withTable_table : kind.withTable (kind.table catalog) catalog = catalog := by
  cases kind <;> rfl

/-- The table of the other kind stays. -/
theorem table_withTable_of_ne (h : other ≠ kind) :
    other.table (kind.withTable attachments catalog) = other.table catalog := by
  cases kind with
  | reference =>
    cases other with
    | reference => contradiction
    | signature => rfl
  | signature =>
    cases other with
    | reference => rfl
    | signature => contradiction

/-- Relations have no part in which NarInfos there are. -/
@[simp] theorem hasNarInfo_withTable (narInfo : Int) :
    (kind.withTable attachments catalog).hasNarInfo narInfo = catalog.hasNarInfo narInfo := by
  cases kind <;> rfl

end tables

/-! ## one text -/

section add

variable {kind : Attachment.Kind} {attachment : Attachment} {catalog : Catalog}

/-- References and signatures are added in one way, each to its table. -/
theorem add_eq (kind : Attachment.Kind) (attachment : Attachment) (catalog : Catalog) :
    kind.add attachment catalog
      = (relate ((kind.table catalog).contains attachment)
          (catalog.hasNarInfo attachment.narInfo) attachment (kind.table catalog)).map
            (kind.withTable · catalog) := by
  cases kind <;> rfl

/-- A text that is there is not added again. -/
theorem add_of_mem (h : attachment ∈ kind.table catalog) :
    kind.add attachment catalog = .ok catalog := by
  rw [add_eq, relate, if_pos (List.contains_iff_mem.2 h), Except.map, withTable_table]

/-- A new text is put at the end of the table, if its NarInfo is there. -/
theorem add_of_notMem (h : attachment ∉ kind.table catalog)
    (owner : catalog.hasNarInfo attachment.narInfo) :
    kind.add attachment catalog
      = .ok (kind.withTable (kind.table catalog ++ [attachment]) catalog) := by
  rw [add_eq, relate, if_neg (mt List.contains_iff_mem.1 h), if_pos owner, Except.map]

/-- A text of no NarInfo is refused. -/
theorem add_of_absent (h : attachment ∉ kind.table catalog)
    (absent : catalog.hasNarInfo attachment.narInfo = false) :
    kind.add attachment catalog = .error .foreignKeyViolated := by
  rw [add_eq, relate, if_neg (mt List.contains_iff_mem.1 h), absent, if_neg Bool.false_ne_true,
    Except.map]

end add

/-! ## several texts -/

/-- Texts of a NarInfo that is there come in, those of them that are new, and nothing else
changes. -/
theorem addEach_of_owner (kind : Attachment.Kind) {attachments : List Attachment}
    {catalog : Catalog}
    (owners : ∀ attachment ∈ attachments, catalog.hasNarInfo attachment.narInfo) :
    ∃ new, new ⊆ attachments ∧ attachments ⊆ kind.table catalog ++ new ∧
      addEach kind.add attachments catalog
        = .ok (kind.withTable (kind.table catalog ++ new) catalog) := by
  induction attachments generalizing catalog with
  | nil => exact ⟨[], by simp⟩
  | cons attachment attachments ih =>
    obtain ⟨howner, howners⟩ := List.forall_mem_cons.1 owners
    by_cases hmem : attachment ∈ kind.table catalog
    · obtain ⟨new, hnew, hcovered, hadded⟩ := ih howners
      have hthere : attachment ∈ kind.table catalog ++ new := List.mem_append_left _ hmem
      rw [addEach_cons_of_ok (add_of_mem hmem)]
      exact ⟨new, List.subset_cons_of_subset _ hnew, List.cons_subset.2 ⟨hthere, hcovered⟩, hadded⟩
    · have hnext : ∀ other ∈ attachments, (kind.withTable (kind.table catalog ++ [attachment])
          catalog).hasNarInfo other.narInfo := by simpa using howners
      obtain ⟨new, hnew, hcovered, hadded⟩ := ih hnext
      simp only [table_withTable, withTable_withTable, List.append_assoc,
        List.singleton_append] at hcovered hadded
      rw [addEach_cons_of_ok (add_of_notMem hmem howner)]
      refine ⟨attachment :: new, List.cons_subset_cons _ hnew, ?_, hadded⟩
      exact List.cons_subset.2 ⟨by simp, hcovered⟩

end Attachment.Kind

namespace Catalog

open Attachment (Kind)

variable {catalog : Catalog} {attachments : List Attachment} {narInfo : Int}

/-! ## well-formed tables -/

/-- Each text is there once, and its NarInfo with it. -/
theorem WellFormed.linked_table (h : catalog.WellFormed) (kind : Kind) :
    Linked id (catalog.hasNarInfo ·.narInfo) (kind.table catalog) := by
  cases kind with
  | reference => exact h.references
  | signature => exact h.signatures

/-- Texts of a NarInfo that is not there are refused from the first on. -/
theorem WellFormed.add_of_absent (h : catalog.WellFormed) (kind : Kind)
    (absent : catalog.hasNarInfo narInfo = false) (text : String) :
    kind.add ⟨narInfo, text⟩ catalog = .error .foreignKeyViolated := by
  refine Kind.add_of_absent (fun hmem => ?_) absent
  have howner := (h.linked_table kind).ends_exist _ hmem
  rw [absent] at howner
  contradiction

/-! ## the texts of one NarInfo -/

theorem mem_textsOf {text : String} :
    text ∈ textsOf attachments narInfo ↔ ⟨narInfo, text⟩ ∈ attachments := by
  simp only [textsOf, Text.mem_sorted, List.mem_map, List.mem_filter, beq_iff_eq]
  constructor
  · rintro ⟨⟨owner, other⟩, ⟨hmem, rfl⟩, rfl⟩
    exact hmem
  · intro hmem
    exact ⟨_, ⟨hmem, rfl⟩, rfl⟩

/-- The texts of a NarInfo are listed each once, in the order of their bytes. -/
theorem textsOf_ascends (h : attachments.Nodup) :
    (textsOf attachments narInfo).Pairwise fun a b => Text.bytes a < Text.bytes b := by
  refine Text.sorted_ascends (List.Nodup.map_on ?_ (h.filter _))
  rintro ⟨owner, text⟩ ha ⟨other, same⟩ hb rfl
  have howner : owner = narInfo := eq_of_beq (List.mem_filter.1 ha).2
  have hother : other = narInfo := eq_of_beq (List.mem_filter.1 hb).2
  rw [howner, hother]

end Catalog

end NarIndex
