import NarIndex.Proofs.Catalog.Attachment
import NarIndex.Proofs.Store.Batch
import NarIndex.Proofs.Store.Lookup

/-!
# NarIndex.Proofs.Store.Attachments

Calls that bring references and signatures to NarInfos, one by one or in lists.  There is one such
call for each kind and each of the two ways, and all of them do the same: they add texts of a kind
to a NarInfo (`Addition`).
-/

namespace NarIndex.Store

open Attachment (Kind)
open Catalog (addEach textsOf)

/-! ## calls that add texts -/

/-- Texts of a kind that are added to a NarInfo. -/
structure Addition where
  kind : Kind
  narInfo : Int
  texts : List String

/-- What a call adds, if it is one that adds references or signatures. -/
def Operation.addition? : Operation → Option Addition
  | .write (.addReference narInfo reference) => some ⟨.reference, narInfo, [reference]⟩
  | .write (.addReferences narInfo references) => some ⟨.reference, narInfo, references⟩
  | .write (.addSignature narInfo signature) => some ⟨.signature, narInfo, [signature]⟩
  | .write (.addSignatures narInfo signatures) => some ⟨.signature, narInfo, signatures⟩
  | _ => none

namespace Addition

/-- The rows that an addition asks for. -/
def attachments (addition : Addition) : List Attachment :=
  addition.texts.map (Attachment.mk addition.narInfo)

/-- The texts of a kind that an addition brings to a NarInfo. -/
def brings (addition : Addition) (kind : Kind) (narInfo : Int) : List String :=
  if addition.kind = kind ∧ addition.narInfo = narInfo then addition.texts else []

/-- A call brings the texts that it adds. -/
theorem mem_brings {addition : Addition} {kind : Kind} {narInfo : Int} {text : String} :
    text ∈ addition.brings kind narInfo ↔
      addition.kind = kind ∧ ⟨narInfo, text⟩ ∈ addition.attachments := by
  by_cases hkind : addition.kind = kind
  · by_cases howner : addition.narInfo = narInfo
    · simp [brings, attachments, hkind, howner]
    · simp [brings, attachments, hkind, howner]
  · simp [brings, hkind]

end Addition

/-- A call that adds texts adds them in batches; one that adds a single text has one. -/
theorem Operation.run_of_addition {operation : Operation} {addition : Addition}
    (h : operation.addition? = some addition) (context : Context) (catalog : Catalog) :
    operation.run context catalog
      = silent (addInBatches context "query" addition.kind.add addition.attachments catalog) := by
  cases operation with
  | read query => contradiction
  | write change =>
    cases change with
    | addReference | addSignature =>
      cases h
      exact congrArg silent (addInBatches_singleton ..).symm
    | addReferences | addSignatures =>
      cases h
      rfl
    | _ => contradiction

/-- The call that lists the texts of a kind that a NarInfo has. -/
def listing : Kind → Int → Query
  | .reference => .references
  | .signature => .signatures

namespace Session

variable {session later : Session} {operation : Operation} {addition : Addition}

/-- A listing answers with the texts of a NarInfo as they are in the table. -/
theorem answers_listing {kind : Kind} {narInfo : Int} {texts : List String} :
    session.Answers (listing kind narInfo) (.texts texts) ↔
      textsOf (kind.table session.catalog) narInfo = texts := by
  rw [answers_iff]
  cases kind <;> simp [listing, Query.answer, Kind.table]

/-- The handle after rows of a kind have come in, and nothing else has changed. -/
def gaining (session : Session) (kind : Kind) (new : List Attachment) : Session :=
  { session with catalog := kind.withTable (kind.table session.catalog ++ new) session.catalog }

/-! ## one addition -/

/-- An addition comes in if there is nothing to write, or the NarInfo is there and no other
connection has the write lock. -/
def Accepts (session : Session) (addition : Addition) : Prop :=
  addition.texts = [] ∨
    session.contended = false ∧ ∃ row ∈ session.catalog.narInfos, row.id = addition.narInfo

/-- An addition that is accepted adds those of its texts that are new. -/
theorem perform_of_accepts (hadds : operation.addition? = some addition)
    (accepted : session.Accepts addition) (now : Time.Timestamp) :
    ∃ new, new ⊆ addition.attachments ∧
      addition.attachments ⊆ addition.kind.table session.catalog ++ new ∧
      session.perform now operation = (.ok .done, session.gaining addition.kind new) := by
  obtain ⟨new, hnew, hcovered, hall⟩ : ∃ new, new ⊆ addition.attachments ∧
      addition.attachments ⊆ addition.kind.table session.catalog ++ new ∧
      addEach (guarded session.contended addition.kind.add) addition.attachments session.catalog
        = .ok (session.gaining addition.kind new).catalog := by
    rcases accepted with hnothing | ⟨hfree, row, hrow, howner⟩
    · refine ⟨[], by simp, ?_⟩
      simp [Addition.attachments, hnothing, gaining]
    · rw [hfree, guarded_false]
      refine addition.kind.addEach_of_owner fun attachment hmem => ?_
      obtain ⟨text, -, rfl⟩ := List.mem_map.1 hmem
      exact List.any_eq_true.2 ⟨row, hrow, beq_iff_eq.2 howner⟩
  refine ⟨new, hnew, hcovered, ?_⟩
  have hbatches := addInBatches_of_ok (session.context now) hall "query"
  rw [perform, Operation.run_of_addition hadds, hbatches]
  rfl

/-- An addition that is not accepted is refused, and changes nothing. -/
theorem Reachable.perform_of_not_accepts (h : session.Reachable)
    (hadds : operation.addition? = some addition) (refused : ¬ session.Accepts addition)
    (now : Time.Timestamp) :
    ∃ error, session.perform now operation = (.error error, session) := by
  obtain ⟨hsome, hnone⟩ := not_or.1 refused
  obtain ⟨text, texts, htexts⟩ := List.exists_cons_of_ne_nil hsome
  obtain ⟨error, hfails⟩ : ∃ error, guarded session.contended addition.kind.add
      ⟨addition.narInfo, text⟩ session.catalog = .error error := by
    cases hlock : session.contended with
    | true => exact ⟨_, guarded_true _⟩
    | false =>
      have habsent : session.catalog.hasNarInfo addition.narInfo = false := by
        simpa [hlock, Catalog.hasNarInfo] using hnone
      rw [guarded_false]
      exact ⟨_, h.wellFormed.catalog.add_of_absent addition.kind habsent text⟩
  obtain ⟨kept, hkept, hbatches⟩ := addInBatches_of_error (session.context now)
    (Catalog.addEach_nil _ session.catalog) hfails
    (texts.map (Attachment.mk addition.narInfo)) "query"
  have hsame : kept = session.catalog := by simpa using hkept.symm
  have hattachments : addition.attachments
      = [] ++ ⟨addition.narInfo, text⟩ :: texts.map (Attachment.mk addition.narInfo) := by
    rw [Addition.attachments, htexts]
    rfl
  refine ⟨.ofDriver "query" error, ?_⟩
  rw [perform, Operation.run_of_addition hadds, hattachments, hbatches, hsame, ite_self]
  rfl

/-- An addition that succeeds has been accepted. -/
theorem Reachable.accepts_of_ok (h : session.Reachable)
    (hadds : operation.addition? = some addition) {now : Time.Timestamp} {answer : Answer}
    (hok : (session.perform now operation).1 = .ok answer) : session.Accepts addition := by
  by_contra hrefused
  obtain ⟨error, hperform⟩ := h.perform_of_not_accepts hadds hrefused now
  rw [hperform] at hok
  contradiction

/-! ## what additions come to -/

/-- The texts of a kind that a NarInfo has are what they were, together with others; they are listed
each once, in the order of their bytes. -/
def Gains (session later : Session) (kind : Kind) (narInfo : Int) (texts : List String) : Prop :=
  ∃ old new, session.Answers (listing kind narInfo) (.texts old) ∧
    later.Answers (listing kind narInfo) (.texts new) ∧
    (new.Pairwise fun a b => Text.bytes a < Text.bytes b) ∧
    ∀ text, text ∈ new ↔ text ∈ old ∨ text ∈ texts

section gains

variable {kind : Kind} {narInfo : Int} {texts more : List String}

/-- What is gained is told by the rows. -/
theorem Reachable.gains (hlater : later.Reachable)
    (hrows : ∀ text, ⟨narInfo, text⟩ ∈ kind.table later.catalog ↔
      ⟨narInfo, text⟩ ∈ kind.table session.catalog ∨ text ∈ texts) :
    session.Gains later kind narInfo texts := by
  have hnodup : (kind.table later.catalog).Nodup := by
    simpa using (hlater.wellFormed.catalog.linked_table kind).keys_nodup
  refine ⟨_, _, answers_listing.2 rfl, answers_listing.2 rfl, Catalog.textsOf_ascends hnodup, ?_⟩
  intro text
  rw [Catalog.mem_textsOf, Catalog.mem_textsOf, hrows]

theorem Reachable.gains_nil (h : session.Reachable) : session.Gains session kind narInfo [] :=
  h.gains (by simp)

/-- What is gained in two steps is gained. -/
theorem Gains.trans {between : Session} (h : session.Gains between kind narInfo texts)
    (hmore : between.Gains later kind narInfo more) :
    session.Gains later kind narInfo (texts ++ more) := by
  obtain ⟨old, middle, hold, hmiddle, -, htexts⟩ := h
  obtain ⟨middle', new, hmiddle', hnew, hascends, hmore⟩ := hmore
  obtain rfl : middle' = middle := Answer.texts.inj (hmiddle'.unique hmiddle)
  refine ⟨old, new, hold, hnew, hascends, fun text => ?_⟩
  rw [hmore, htexts, List.mem_append, or_assoc]

/-- What a NarInfo has is determined by what it had and by which texts it has gained. -/
theorem Gains.same {other : Session} (h : session.Gains later kind narInfo texts)
    (hother : session.Gains other kind narInfo more)
    (same : ∀ text, text ∈ texts ↔ text ∈ more) :
    ∃ new, later.Answers (listing kind narInfo) (.texts new) ∧
      other.Answers (listing kind narInfo) (.texts new) := by
  obtain ⟨old, new, hold, hnew, hascends, htexts⟩ := h
  obtain ⟨old', new', hold', hnew', hascends', hmore⟩ := hother
  obtain rfl : old' = old := Answer.texts.inj (hold'.unique hold)
  have heq : new' = new := by
    refine Text.eq_of_ascends hascends' hascends fun text => ?_
    rw [hmore, htexts, same]
  exact ⟨new, hnew, heq ▸ hnew'⟩

/-- An addition that is accepted brings its texts to its NarInfo, and nothing to any other one, nor
anything of the other kind. -/
theorem Reachable.gains_of_accepts (h : session.Reachable)
    (hadds : operation.addition? = some addition) (accepted : session.Accepts addition)
    (now : Time.Timestamp) (kind : Kind) (narInfo : Int) :
    session.Gains (session.perform now operation).2 kind narInfo
      (addition.brings kind narInfo) := by
  obtain ⟨new, hnew, hcovered, hperform⟩ := perform_of_accepts hadds accepted now
  have hlater := h.of_perform hperform
  rw [hperform]
  refine hlater.gains fun text => ?_
  rw [Addition.mem_brings]
  by_cases hkind : addition.kind = kind
  · subst hkind
    rw [gaining, Kind.table_withTable, List.mem_append]
    constructor
    · rintro (hheld | hcame)
      · exact .inl hheld
      · exact .inr ⟨rfl, hnew hcame⟩
    · rintro (hheld | ⟨-, hasked⟩)
      · exact .inl hheld
      · exact List.mem_append.1 (hcovered hasked)
  · rw [gaining, Kind.table_withTable_of_ne (Ne.symm hkind)]
    simp [hkind]

end gains

/-! ## addition after addition -/

/-- The texts of a kind that calls bring to a NarInfo. -/
def brought (kind : Kind) (narInfo : Int) (operations : List (Time.Timestamp × Operation)) :
    List String :=
  operations.flatMap fun (_, operation) =>
    (operation.addition?.map fun addition => addition.brings kind narInfo).getD []

/-- Calls bring what the first one brings and what those behind it bring. -/
theorem brought_cons (hadds : operation.addition? = some addition) (kind : Kind) (narInfo : Int)
    (now : Time.Timestamp) (operations : List (Time.Timestamp × Operation)) :
    brought kind narInfo ((now, operation) :: operations)
      = addition.brings kind narInfo ++ brought kind narInfo operations := by
  simp [brought, hadds]

/-- Additions that all succeed bring what each of them brings. -/
theorem Reachable.gains_of_allSucceed (h : session.Reachable)
    {operations : List (Time.Timestamp × Operation)}
    (hadds : ∀ call ∈ operations, call.2.addition?.isSome) (hall : session.AllSucceed operations)
    (kind : Kind) (narInfo : Int) :
    session.Gains (session.after (Event.calls operations)) kind narInfo
      (brought kind narInfo operations) := by
  -- on the calls; `Gains` composes, so that only the first of them has to be looked at
  induction operations generalizing session with
  | nil => exact h.gains_nil
  | cons call operations ih =>
    obtain ⟨now, operation⟩ := call
    obtain ⟨hcall, hcalls⟩ := List.forall_mem_cons.1 hadds
    obtain ⟨addition, hadds⟩ := Option.isSome_iff_exists.1 hcall
    obtain ⟨⟨answer, hok⟩, hrest⟩ := allSucceed_cons.1 hall
    have hfirst := h.gains_of_accepts hadds (h.accepts_of_ok hadds hok) now kind narInfo
    rw [after_calls_cons, brought_cons hadds]
    exact hfirst.trans (ih (h.of_perform rfl) hcalls hrest)

/-- References and signatures are sets.

* A call that adds some succeeds just when there is nothing to write, or the NarInfo is there and no
  other connection has the write lock.  Then the NarInfo has what it had and what was added, each
  once and in the order of the bytes, and only rows of this kind and of this NarInfo have come in;
  nothing else has changed.
* After any number of such calls, single ones and lists, of both kinds and for any NarInfos, each
  NarInfo has of each kind what it had and what they brought to it.
* So it does not matter in which order they came, how often they brought the same, and how it was
  grouped. -/
theorem Reachable.attachments_are_sets (h : session.Reachable) :
    (∀ now operation addition, operation.addition? = some addition →
      let call := session.perform now operation
      (call.1 = .ok .done ↔ addition.texts = [] ∨
        session.contended = false ∧
          ∃ row ∈ session.catalog.narInfos, row.id = addition.narInfo) ∧
      (call.1 = .ok .done →
        session.Gains call.2 addition.kind addition.narInfo addition.texts ∧
        ∃ new, new ⊆ addition.attachments ∧ call.2 = session.gaining addition.kind new)) ∧
    (∀ operations : List (Time.Timestamp × Operation),
      (∀ call ∈ operations, call.2.addition?.isSome) → session.AllSucceed operations →
      ∀ kind narInfo, session.Gains (session.after (Event.calls operations)) kind narInfo
        (brought kind narInfo operations)) ∧
    ∀ operations others : List (Time.Timestamp × Operation),
      (∀ call ∈ operations, call.2.addition?.isSome) → session.AllSucceed operations →
      (∀ call ∈ others, call.2.addition?.isSome) → session.AllSucceed others →
      ∀ kind narInfo,
        (∀ text, text ∈ brought kind narInfo operations ↔ text ∈ brought kind narInfo others) →
        ∃ texts,
          (session.after (Event.calls operations)).Answers (listing kind narInfo) (.texts texts) ∧
          (session.after (Event.calls others)).Answers (listing kind narInfo) (.texts texts) := by
  refine ⟨?_, fun operations hadds hall => h.gains_of_allSucceed hadds hall, ?_⟩
  · intro now operation addition hadds call
    have hdone : session.Accepts addition → call.1 = .ok .done := by
      intro haccepted
      obtain ⟨new, -, -, hperform⟩ := perform_of_accepts hadds haccepted now
      exact congrArg Prod.fst hperform
    refine ⟨⟨fun hok => h.accepts_of_ok hadds hok, hdone⟩, fun hok => ?_⟩
    have haccepted := h.accepts_of_ok hadds hok
    have hgains := h.gains_of_accepts hadds haccepted now addition.kind addition.narInfo
    rw [Addition.brings, if_pos ⟨rfl, rfl⟩] at hgains
    obtain ⟨new, hnew, -, hperform⟩ := perform_of_accepts hadds haccepted now
    exact ⟨hgains, new, hnew, congrArg Prod.snd hperform⟩
  · intro operations others hadds hall hothers hallOthers kind narInfo same
    exact (h.gains_of_allSucceed hadds hall kind narInfo).same
      (h.gains_of_allSucceed hothers hallOthers kind narInfo) same

/-- A reference that fills a batch by repetition and another one; the same two in other calls, among
some that add something else; and a reference of a NarInfo that is not there. -/
theorem attachments_are_sets_repeated :
    let session := (fresh .sqlite).after
      [.call .epoch (.write (.createNarInfo (placeholder "g"))),
        .call .epoch (.write (.createNarInfo (placeholder "h"))),
        .call .epoch (.write (.addReference 1 "c"))]
    let list : Operation := .write (.addReferences 1 (List.replicate 300 "b" ++ ["a"]))
    let singles : List (Time.Timestamp × Operation) :=
      [(.epoch, .write (.addReference 1 "a")), (.epoch, .write (.addSignature 1 "s")),
        (.epoch, .write (.addReference 2 "r")), (.epoch, .write (.addReferences 1 ["b", "a"]))]
    session.Reachable ∧ session.AllSucceed [(.epoch, list)] ∧ session.AllSucceed singles ∧
      (∃ texts,
        (session.after (Event.calls [(.epoch, list)])).Answers (.references 1) (.texts texts) ∧
          (session.after (Event.calls singles)).Answers (.references 1) (.texts texts)) ∧
      (session.perform .epoch (.write (.addReference 3 "a"))).1 ≠ .ok .done := by
  intro session list singles
  have h : session.Reachable := (Reachable.fresh .sqlite).after _
  have hlist : session.AllSucceed [(.epoch, list)] := by
    unfold AllSucceed
    decide +kernel
  have hsingles : session.AllSucceed singles := by
    unfold AllSucceed
    decide +kernel
  obtain ⟨hcalls, -, hsame⟩ := h.attachments_are_sets
  have habsent := (hcalls .epoch (.write (.addReference 3 "a")) _ rfl).1
  have htexts : ∀ text, text ∈ brought .reference 1 [(.epoch, list)] ↔
      text ∈ brought .reference 1 singles := by
    intro text
    have hone : brought .reference 1 [(.epoch, list)] = List.replicate 300 "b" ++ ["a"] := by
      decide +kernel
    have htwo : brought .reference 1 singles = ["a", "b", "a"] := by decide +kernel
    rw [hone, htwo]
    simp only [List.mem_append, List.mem_replicate, List.mem_cons, List.not_mem_nil]
    grind
  refine ⟨h, hlist, hsingles, ?_, fun hok => ?_⟩
  · exact hsame _ _ (by decide) hlist (by decide) hsingles .reference 1 htexts
  · rcases habsent.1 hok with hnothing | ⟨-, hthere⟩
    · contradiction
    · have hnone : ¬ ∃ row ∈ session.catalog.narInfos, row.id = 3 := by decide +kernel
      exact hnone hthere

end Session

end NarIndex.Store
