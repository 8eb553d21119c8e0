import NarIndex.Error
import NarIndex.Proofs.Text.Search

/-!
# NarIndex.Proofs.Error.Kind

The kind of a driver error is the same however it is wrapped: in an error of the store, whether that
is made by sorting it or by hand; in the driver's own wording around a text, in which no marker
begins before the text or ends behind it; and, as far as a marker is found in it, in any text at
all.  Which lower case of a text is searched makes no difference (`kind_survives_wrapping`).
-/

namespace NarIndex

open NarIndex.Text

/-! ## wrapped by the store -/

namespace StoreError

/-- Sorting a driver error keeps its kind. -/
theorem kind_ofDriver (during : String) (source : DriverError) :
    (ofDriver during source).kind = (ErrorKind.ofDriver? source).getD .other := by
  rw [ofDriver]
  split <;> simp_all [kind]

end StoreError

namespace ErrorKind

/-! ## wrapped by the driver -/

/-- Wordings before and behind a text that no marker begins in or ends in. -/
structure Frames (before after : List Char) : Prop where
  before_duplicate : ∀ marker ∈ duplicateMarkers, BeginsNowhere marker before
  before_deadlock : ∀ marker ∈ deadlockMarkers, BeginsNowhere marker (foldCase before)
  after_duplicate : ∀ marker ∈ duplicateMarkers, EndsNowhere marker after
  after_deadlock : ∀ marker ∈ deadlockMarkers, EndsNowhere marker (foldCase after)

theorem any_occursIn_iff {markers : List (List Char)} {s : List Char} :
    markers.any (occursIn · s) ↔ ∃ marker ∈ markers, marker <:+: s := by
  simp only [List.any_eq_true, occursIn_iff]

/-- Two texts with the same markers are told alike. -/
theorem any_occursIn_congr {markers : List (List Char)} {s t : List Char}
    (h : ∀ marker ∈ markers, marker <:+: s ↔ marker <:+: t) :
    markers.any (occursIn · s) = markers.any (occursIn · t) := by
  rw [Bool.eq_iff_iff, any_occursIn_iff, any_occursIn_iff]
  exact exists_congr fun marker => and_congr_right fun hmarker => h marker hmarker

/-- A wording around a text adds no marker and hides none. -/
theorem Frames.ofText? {before after : List Char} (h : Frames before after) (s : List Char) :
    ofText? (before ++ s ++ after) = ofText? s := by
  have hduplicate : duplicateMarkers.any (occursIn · (before ++ s ++ after)) =
      duplicateMarkers.any (occursIn · s) :=
    any_occursIn_congr fun marker hmarker => by
      rw [infix_append_right_iff (h.after_duplicate marker hmarker),
        infix_append_left_iff (h.before_duplicate marker hmarker)]
  have hdeadlock : deadlockMarkers.any (occursIn · (foldCase (before ++ s ++ after))) =
      deadlockMarkers.any (occursIn · (foldCase s)) :=
    any_occursIn_congr fun marker hmarker => by
      rw [foldCase_append, foldCase_append,
        infix_append_right_iff (h.after_deadlock marker hmarker),
        infix_append_left_iff (h.before_deadlock marker hmarker)]
  rw [ErrorKind.ofText?, ErrorKind.ofText?, hduplicate, hdeadlock]

theorem Frames.ofMessage? {before after : String} (h : Frames before.toList after.toList)
    (text : String) : ofMessage? (before ++ text ++ after) = ofMessage? text := by
  rw [ErrorKind.ofMessage?, String.toList_append, String.toList_append, h.ofText?]
  rfl

/-- A wording before a text only. -/
theorem Frames.ofMessage?_append {before : String} (h : Frames before.toList [])
    (text : String) : ErrorKind.ofMessage? (before ++ text) = ErrorKind.ofMessage? text := by
  have hframes : Frames before.toList "".toList := h
  simpa using hframes.ofMessage? text

instance (before after : List Char) : Decidable (Frames before after) :=
  decidable_of_iff
    ((∀ marker ∈ duplicateMarkers, BeginsNowhere marker before) ∧
      (∀ marker ∈ deadlockMarkers, BeginsNowhere marker (foldCase before)) ∧
      (∀ marker ∈ duplicateMarkers, EndsNowhere marker after) ∧
      (∀ marker ∈ deadlockMarkers, EndsNowhere marker (foldCase after)))
    ⟨fun h => ⟨h.1, h.2.1, h.2.2.1, h.2.2.2⟩,
      fun h => ⟨h.before_duplicate, h.before_deadlock, h.after_duplicate, h.after_deadlock⟩⟩

/-- The driver errors that carry a text, and say nothing of their own but a fixed wording. -/
inductive Carries : DriverError → String → Prop
  | foreign (text : String) : Carries (.database (.foreign text)) text
  | protocol (text : String) : Carries (.protocol text) text
  | configuration (text : String) : Carries (.configuration text) text
  | io (text : String) : Carries (.io text) text
  | tls (text : String) : Carries (.tls text) text
  | encode (text : String) : Carries (.encode text) text
  | decode (text : String) : Carries (.decode text) text
  | columnNotFound (text : String) : Carries (.columnNotFound text) text
  | typeNotFound (text : String) : Carries (.typeNotFound text) text
  | mapping (text : String) : Carries (.mapping text) text

/-- A driver error that carries a text is of the kind of the text. -/
theorem Carries.ofDriver? {error : DriverError} {text : String} (h : Carries error text) :
    ofDriver? error = ofMessage? text := by
  cases h with
  | foreign => rfl
  | protocol => exact Frames.ofMessage?_append (by decide +kernel) text
  | configuration => exact Frames.ofMessage?_append (by decide +kernel) text
  | io => exact Frames.ofMessage?_append (by decide +kernel) text
  | tls => exact Frames.ofMessage?_append (by decide +kernel) text
  | encode => exact Frames.ofMessage?_append (by decide +kernel) text
  | decode => exact Frames.ofMessage?_append (by decide +kernel) text
  | columnNotFound => exact Frames.ofMessage?_append (by decide +kernel) text
  | typeNotFound => exact Frames.ofMessage? (by decide +kernel) text
  | mapping => exact Frames.ofMessage?_append (by decide +kernel) text

/-! ## wrapped in any text -/

/-- A marker in a text is one in every text around it. -/
theorem any_occursIn_mono {markers : List (List Char)} {s t : List Char} (hst : s <:+: t)
    (h : markers.any (occursIn · s)) : markers.any (occursIn · t) := by
  obtain ⟨marker, hmarker, hs⟩ := any_occursIn_iff.1 h
  exact any_occursIn_iff.2 ⟨marker, hmarker, hs.trans hst⟩

/-- A duplicate key is told by its markers alone. -/
theorem ofText?_eq_duplicateKey {s : List Char} :
    ofText? s = some .duplicateKey ↔ duplicateMarkers.any (occursIn · s) := by
  rw [ofText?]
  split
  · exact iff_of_true rfl ‹_›
  · split <;> simp_all

/-- A text that tells a deadlock has a marker of deadlocks in it. -/
theorem any_deadlock_of_ofText? {s : List Char} (h : ofText? s = some .deadlock) :
    deadlockMarkers.any (occursIn · (foldCase s)) := by
  rw [ofText?] at h
  split at h
  · contradiction
  · split at h
    · assumption
    · contradiction

theorem infix_foldCase_of {s t : List Char} (h : s <:+: t) : foldCase s <:+: foldCase t := by
  obtain ⟨before, after, rfl⟩ := h
  exact ⟨foldCase before, foldCase after, by simp⟩

/-- A text with a duplicate key in it tells the duplicate key. -/
theorem ofText?_duplicateKey_of_occurs {s t : List Char} (hst : s <:+: t)
    (h : ofText? s = some .duplicateKey) : ofText? t = some .duplicateKey :=
  ofText?_eq_duplicateKey.2 (any_occursIn_mono hst (ofText?_eq_duplicateKey.1 h))

/-- A text with a deadlock in it tells the deadlock, unless a duplicate key goes before it. -/
theorem ofText?_of_infix_deadlock {s t : List Char} (hst : s <:+: t)
    (h : ofText? s = some .deadlock) :
    ofText? t =
      some (if ∃ marker ∈ duplicateMarkers, marker <:+: t then .duplicateKey else .deadlock) := by
  have hdeadlock := any_occursIn_mono (infix_foldCase_of hst) (any_deadlock_of_ofText? h)
  by_cases hduplicate : duplicateMarkers.any (occursIn · t)
  · rw [ofText?, if_pos hduplicate, if_pos (any_occursIn_iff.1 hduplicate)]
  · rw [ofText?, if_neg hduplicate, if_pos hdeadlock, if_neg (mt any_occursIn_iff.2 hduplicate)]

/-- The markers of deadlocks are texts of ASCII, which every lower case of a text has at the same
places; so it does not matter which one is searched. -/
theorem ofText?_of_lowers {s lowered : List Char} (h : Lowers s lowered) :
    ofText? s =
      if ∃ marker ∈ duplicateMarkers, marker <:+: s then some .duplicateKey
      else if ∃ marker ∈ deadlockMarkers, marker <:+: lowered then some .deadlock
      else none := by
  have hmarkers : ∀ marker ∈ deadlockMarkers, marker ≠ [] ∧ marker.all (·.toNat < 0x80) := by
    decide
  have hlowered : deadlockMarkers.any (occursIn · (foldCase s)) =
      deadlockMarkers.any (occursIn · lowered) := by
    refine any_occursIn_congr fun marker hmarker => ?_
    obtain ⟨hne, hascii⟩ := hmarkers marker hmarker
    exact (lowers_foldCase s).infix_iff h hne (by simpa [InAscii] using hascii)
  rw [ofText?, hlowered]
  simp only [any_occursIn_iff]

/-! ## all together -/

theorem toList_infix_append (before message after : String) :
    message.toList <:+: (before ++ message ++ after).toList :=
  ⟨before.toList, after.toList, by simp⟩

/-- A driver error keeps its kind when the store wraps it, a text keeps its kind when a driver
error carries it, and a text that tells a duplicate key or a deadlock tells it within every other
text, in which a duplicate key goes before a deadlock.  What a text tells is found in any lower case
of it. -/
theorem kind_survives_wrapping :
    (∀ (during : String) (error : DriverError),
      (StoreError.ofDriver during error).kind = (ofDriver? error).getD .other ∧
        (StoreError.database during error).kind = (ofDriver? error).getD .other) ∧
    (∀ (error : DriverError) (text : String),
      Carries error text → ofDriver? error = ofMessage? text) ∧
    (∀ before message after : String,
      (ofMessage? message = some .duplicateKey →
        ofMessage? (before ++ message ++ after) = some .duplicateKey) ∧
      (ofMessage? message = some .deadlock →
        ofMessage? (before ++ message ++ after) =
          some (if ∃ marker ∈ duplicateMarkers, marker <:+: (before ++ message ++ after).toList
            then .duplicateKey else .deadlock))) ∧
    ∀ (message : String) (lowered : List Char), Lowers message.toList lowered →
      ofMessage? message =
        if ∃ marker ∈ duplicateMarkers, marker <:+: message.toList then some .duplicateKey
        else if ∃ marker ∈ deadlockMarkers, marker <:+: lowered then some .deadlock
        else none := by
  refine ⟨fun during error => ⟨StoreError.kind_ofDriver during error, rfl⟩,
    fun error text h => h.ofDriver?, fun before message after => ?_,
    fun message lowered h => ofText?_of_lowers h⟩
  have hoccurs := toList_infix_append before message after
  exact ⟨ofText?_duplicateKey_of_occurs hoccurs, ofText?_of_infix_deadlock hoccurs⟩

/-- A lock that is told with a Kelvin sign for its K, relayed with a duplicate key behind it; and a
deadlock behind a Greek word, whose last letter is lowered in another way than it would be alone. -/
theorem kind_survives_wrapping_relayed :
    ofMessage? "DATABASE IS LOC\u212AED" = some .deadlock ∧
      ofDriver? (.io "DATABASE IS LOC\u212AED") = ofMessage? "DATABASE IS LOC\u212AED" ∧
      ofMessage? ("relay: " ++ "DATABASE IS LOC\u212AED" ++ " after Error 1062") =
        some .duplicateKey ∧
      Lowers "\u0391\u03A3 DEADLOCK".toList "\u03B1\u03C2 deadlock".toList ∧
      ofMessage? "\u0391\u03A3 DEADLOCK" = some .deadlock := by
  have hlocked : ofMessage? "DATABASE IS LOC\u212AED" = some .deadlock := by decide +kernel
  have hlowers : Lowers "\u0391\u03A3 DEADLOCK".toList "\u03B1\u03C2 deadlock".toList := by
    have hword : "\u0391\u03A3 DEADLOCK".toList = '\u0391' :: '\u03A3' :: " DEADLOCK".toList := by
      decide
    have hlower : "\u03B1\u03C2 deadlock".toList
        = '\u03B1' :: '\u03C2' :: foldCase " DEADLOCK".toList := by
      decide
    rw [hword, hlower]
    exact .letter (by decide) (by decide) (.letter (by decide) (by decide) (lowers_foldCase _))
  obtain ⟨-, hcarried, hwrapped, hlowered⟩ := kind_survives_wrapping
  refine ⟨hlocked, hcarried _ _ (.io _), ?_, hlowers, ?_⟩
  · rw [(hwrapped "relay: " "DATABASE IS LOC\u212AED" " after Error 1062").2 hlocked]
    decide +kernel
  · rw [hlowered _ _ hlowers]
    decide +kernel

end ErrorKind

end NarIndex
