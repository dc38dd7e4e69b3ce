import Mathlib.Data.Bool.AllAny
import CredentialWallet.Preview
import CredentialWallet.Proofs.Atomicity
import CredentialWallet.Proofs.Fields
import CredentialWallet.Proofs.Spelling
/-!
# What decides the kind of an invitation

The kind of an invitation is looked for in a text: in the compact text of a payload, and before that in
the text a payload is read from. In a compact text a marker is found if and only if a string or key of
the payload shows it (`Json.Shows`), which one that mentions the marker does, but also one that mentions
it with a return in place of its first letter.

The text that a payload is read from spells its strings in its own way. It has to hold a marker itself,
which it does whenever its payload shows one and it makes no use of escapes by number. Then it makes no
difference to a preview which text the payload came in.
-/

namespace CredentialWallet

namespace Json

instance : DecidablePred IsPlain := fun _ => inferInstanceAs (Decidable (_ ∧ _))

/-- A key or a string of a value, at some depth, contains a name. -/
def Mentions (v : Json) (name : List Char) : Prop := ∃ t ∈ v.texts, name <:+: t.toList

instance (v : Json) (name : List Char) : Decidable (v.Mentions name) :=
  inferInstanceAs (Decidable (∃ t ∈ v.texts, _))

/-- A value mentions a marker, or what is written like it: a return is written with an `r` at the end. -/
def Shows (v : Json) (marker : String) : Prop :=
  v.Mentions marker.toList ∨ v.Mentions ('\r' :: marker.toList.tail)

end Json

namespace Preview

open Json (IsDistinct IsPlain Shows)

/-- A name that is found in a text only where a string of the text is written. -/
structure IsMarker (marker : String) : Prop where
  letter : marker.toList = 'r' :: marker.toList.tail
  distinct : IsDistinct marker.toList
  plain : ∀ c ∈ marker.toList, IsPlain c ∧ c ≠ '/'

theorem isMarker_verification : IsMarker verificationMarker where
  letter := by decide
  distinct := ⟨by decide, List.all_iff_forall_prop.1 (by decide)⟩
  plain := List.all_iff_forall_prop.1 (by decide)

theorem isMarker_credential : IsMarker credentialMarker where
  letter := by decide
  distinct := ⟨by decide, List.all_iff_forall_prop.1 (by decide)⟩
  plain := List.all_iff_forall_prop.1 (by decide)

/-! ### Compact texts -/

theorem IsMarker.infix_compact_iff {marker : String} (h : IsMarker marker) (v : Json) :
    marker.toList <:+: v.compact.toList ↔ v.Shows marker := by
  have hplain : ∀ c ∈ 'r' :: marker.toList.tail, IsPlain c := fun c hc =>
    (h.plain c (h.letter ▸ hc)).1
  rw [Json.compact, String.toList_ofList, Json.infix_compactChars_iff h.distinct, Shows, Json.Mentions,
    Json.Mentions, ← exists_or]
  refine exists_congr fun t => ?_
  rw [← and_or_left, h.letter, Json.infix_written_iff hplain, List.tail_cons]

theorem classify_cases (raw : String) :
    (verificationMarker.toList <:+: raw.toList ∧ classify raw = .ok .verification) ∨
    (¬ verificationMarker.toList <:+: raw.toList ∧ credentialMarker.toList <:+: raw.toList ∧
      classify raw = .ok .credential) ∨
    (¬ verificationMarker.toList <:+: raw.toList ∧ ¬ credentialMarker.toList <:+: raw.toList ∧
      classify raw = .error (.unknownFormat (String.ofList (raw.toList.take 64)))) := by
  simp only [classify, Text.occursIn_iff]
  split
  · exact .inl ⟨‹_›, rfl⟩
  · split
    · exact .inr (.inl ⟨‹_›, ‹_›, rfl⟩)
    · exact .inr (.inr ⟨‹_›, ‹_›, rfl⟩)

/-- The kind of a payload is told by what its strings and keys show, wherever they stand and whatever
stands around them. -/
theorem classify_compact (v : Json) :
    (classify v.compact = .ok .verification ↔ v.Shows verificationMarker) ∧
      (classify v.compact = .ok .credential ↔
        ¬ v.Shows verificationMarker ∧ v.Shows credentialMarker) ∧
      (classify v.compact = .error (.unknownFormat (String.ofList (v.compact.toList.take 64))) ↔
        ¬ v.Shows verificationMarker ∧ ¬ v.Shows credentialMarker) := by
  simp only [← isMarker_verification.infix_compact_iff, ← isMarker_credential.infix_compact_iff]
  rcases classify_cases v.compact with ⟨hv, h⟩ | ⟨hv, hc, h⟩ | ⟨hv, hc, h⟩ <;> rw [h] <;> simp [*]

/-- A return in front of the rest of a marker is written like the marker. -/
theorem classify_compact_of_return :
    let v := Json.object [("id", .string "a"), ("url", .string "b"), ("x", .string "\requests~attach")]
    classify v.compact = .ok .credential ∧ ¬ v.Mentions verificationMarker.toList ∧
      ¬ v.Mentions credentialMarker.toList := by
  decide +kernel

/-! ### Texts that are read -/

/-- A text holds a marker as it stands. -/
def HasMarker (raw : String) : Prop :=
  verificationMarker.toList <:+: raw.toList ∨ credentialMarker.toList <:+: raw.toList

/-- A text holds the beginning of an escape by number. -/
def EscapesByNumber (raw : String) : Prop := ['\\', 'u'] <:+: raw.toList

instance : DecidablePred HasMarker := fun _ => inferInstanceAs (Decidable (_ ∨ _))

instance : DecidablePred EscapesByNumber := fun _ => inferInstanceAs (Decidable (_ <:+: _))

theorem classify_of_hasMarker {raw : String} (h : HasMarker raw) : ∃ kind, classify raw = .ok kind := by
  rcases classify_cases raw with ⟨_, hkind⟩ | ⟨_, _, hkind⟩ | ⟨hv, hc, _⟩
  · exact ⟨_, hkind⟩
  · exact ⟨_, hkind⟩
  · exact absurd h (not_or.2 ⟨hv, hc⟩)

theorem classify_of_not_hasMarker {raw : String} (h : ¬ HasMarker raw) :
    classify raw = .error (.unknownFormat (String.ofList (raw.toList.take 64))) := by
  obtain ⟨hv, hc⟩ := not_or.1 h
  rcases classify_cases raw with ⟨hmarked, _⟩ | ⟨_, hmarked, _⟩ | ⟨_, _, hrefused⟩
  · exact absurd hmarked hv
  · exact absurd hmarked hc
  · exact hrefused

theorem ofText_of_not_hasMarker {raw : String} (h : ¬ HasMarker raw) :
    ofText raw = .error (.unknownFormat (String.ofList (raw.toList.take 64))) := by
  rw [ofText, classify_of_not_hasMarker h]
  rfl

theorem shows_of_ofJson {v : Json} {p : Preview} (h : ofJson v = .ok p) :
    v.Shows verificationMarker ∨ v.Shows credentialMarker := by
  obtain ⟨kind, hkind, _⟩ := bind_eq_ok_iff.1 h
  cases kind with
  | credential => exact .inr ((classify_compact v).2.1.1 hkind).2
  | verification => exact .inl ((classify_compact v).1.1 hkind)

theorem payload_of_ofJson {v : Json} {p : Preview} (h : ofJson v = .ok p) : p.payload = v := by
  have hannounced {kind : Kind} {a : Announcement kind} (h : Announcement.ofPayload v = .ok a) :
      a.payload = v := by
    rw [Announcement.ofPayload] at h
    split at h
    · cases h
      rfl
    · cases h
  obtain ⟨kind, _, h⟩ := bind_eq_ok_iff.1 h
  cases kind with
  | credential =>
    obtain ⟨a, ha, h⟩ := bind_eq_ok_iff.1 h
    cases h
    exact hannounced ha
  | verification =>
    obtain ⟨a, ha, h⟩ := bind_eq_ok_iff.1 h
    cases h
    exact hannounced ha

section

variable {raw : String} {v : Json} (hread : Record.ofText raw = .ok v)
include hread

theorem exists_draft_of_ofText :
    (Json.Document.ofText raw).draft.toJson? Json.depthLimit = .ok v := by
  obtain ⟨value, hfree, h⟩ := bind_eq_ok_iff.1 hread
  split at h
  · cases h
  · cases h
    exact Record.readFree_eq_ok hfree

theorem stands_of_mem_texts (hraw : ¬ EscapesByNumber raw) {t : String} (ht : t ∈ v.texts) :
    Json.Stands t (raw.toList.map some) := by
  have hlettered : Json.IsLettered (raw.toList.map some) :=
    ⟨by simp, fun hnumber => hraw (infix_of_map_some hnumber)⟩
  exact Json.Draft.stands_of_mem_scan _ _ hlettered
    (Json.Draft.texts_subset_of_toJson? _ (exists_draft_of_ofText hread) ht)

theorem IsMarker.infix_of_shows {marker : String} (h : IsMarker marker) (hraw : ¬ EscapesByNumber raw)
    (hshows : v.Shows marker) : marker.toList <:+: raw.toList := by
  obtain ⟨t, ht, hoccurs⟩ : ∃ t ∈ v.texts,
      'r' :: marker.toList.tail <:+: t.toList ∨ '\r' :: marker.toList.tail <:+: t.toList := by
    rw [← h.letter]
    rcases hshows with ⟨t, ht, hoccurs⟩ | ⟨t, ht, hoccurs⟩
    · exact ⟨t, ht, .inl hoccurs⟩
    · exact ⟨t, ht, .inr hoccurs⟩
  obtain ⟨literal, hliteral, hspells⟩ := stands_of_mem_texts hread hraw ht
  have hname : ∀ c ∈ 'r' :: marker.toList.tail, IsPlain c ∧ c ≠ '/' := h.letter ▸ h.plain
  rw [h.letter]
  exact infix_of_map_some ((hspells.infix_map_some hname hoccurs).trans hliteral)

theorem hasMarker_of_ofJson (hraw : ¬ EscapesByNumber raw) {p : Preview} (h : ofJson v = .ok p) :
    HasMarker raw := by
  rcases shows_of_ofJson h with hshows | hshows
  · exact .inl (isMarker_verification.infix_of_shows hread hraw hshows)
  · exact .inr (isMarker_credential.infix_of_shows hread hraw hshows)

theorem ofText_of_hasMarker (hmarker : HasMarker raw) : ofText raw = ofJson v := by
  obtain ⟨kind, hkind⟩ := classify_of_hasMarker hmarker
  rw [ofText, hkind, hread]
  rfl

theorem ofText_eq_ok_iff {p : Preview} : ofText raw = .ok p ↔ HasMarker raw ∧ ofJson v = .ok p := by
  by_cases hmarker : HasMarker raw
  · rw [ofText_of_hasMarker hread hmarker, and_iff_right hmarker]
  · rw [ofText_of_not_hasMarker hmarker]
    simp [hmarker]

theorem ofText_eq_ok_iff_of_lettered (hraw : ¬ EscapesByNumber raw) {p : Preview} :
    ofText raw = .ok p ↔ ofJson v = .ok p := by
  rw [ofText_eq_ok_iff hread]
  exact and_iff_right_of_imp (hasMarker_of_ofJson hread hraw)

/-- A text that reads as a value is previewed as that value if it holds a marker as it stands, and not at
all if it holds none. A text without escapes by number need not be looked at for that, and of two texts
with one value it makes no difference which was there. -/
theorem ofText_agrees_with_ofJson :
    (HasMarker raw → ofText raw = ofJson v) ∧
      (¬ HasMarker raw → ofText raw = .error (.unknownFormat (String.ofList (raw.toList.take 64)))) ∧
      (¬ EscapesByNumber raw → ∀ p, ofText raw = .ok p ↔ ofJson v = .ok p) ∧
      (∀ p, ofText raw = .ok p → ofJson v = .ok p ∧ p.payload = v) ∧
      ∀ other, Record.ofText other = .ok v →
        (HasMarker raw ∧ HasMarker other → ofText raw = ofText other) ∧
        (¬ EscapesByNumber raw ∧ ¬ EscapesByNumber other →
          ∀ p, ofText raw = .ok p ↔ ofText other = .ok p) := by
  refine ⟨ofText_of_hasMarker hread, ofText_of_not_hasMarker,
    fun hraw _ => ofText_eq_ok_iff_of_lettered hread hraw, fun p hp => ?_, fun other hother => ⟨?_, ?_⟩⟩
  · have hpreview := ((ofText_eq_ok_iff hread).1 hp).2
    exact ⟨hpreview, payload_of_ofJson hpreview⟩
  · rintro ⟨hmarker, hmarker'⟩
    rw [ofText_of_hasMarker hread hmarker, ofText_of_hasMarker hother hmarker']
  · rintro ⟨hraw, hraw'⟩ p
    rw [ofText_eq_ok_iff_of_lettered hread hraw, ofText_eq_ok_iff_of_lettered hother hraw']

end

end Preview

end CredentialWallet

namespace CredentialWallet.Sample

/-- What an invitation says of itself, in compact text but for its attachment. -/
def announced (attachment : String) : String :=
  String.join (braced ["\"id\":\"a\",", "\"url\":\"b\",", attachment])

def announcement : Json :=
  .object [("id", .string "a"), ("requests~attach", .array []), ("url", .string "b")]

end CredentialWallet.Sample

namespace CredentialWallet.Preview

open Sample

/-- Blanks and another escape in the text make no difference to the preview. -/
theorem ofText_agrees_with_ofJson_spaced :
    let spaced := announced "\n\"requests~attach\" : [\t]"
    Record.ofText spaced = .ok announcement ∧ ofText spaced = ofJson announcement ∧
      ∀ p, ofText spaced = .ok p ↔ ofText (announced "\"requests~attach\":[]") = .ok p := by
  intro spaced
  have hread : Record.ofText spaced = .ok announcement := by decide +kernel
  obtain ⟨hmarked, -, -, -, hother⟩ := ofText_agrees_with_ofJson hread
  exact ⟨hread, hmarked (by decide +kernel),
    (hother _ (by decide +kernel)).2 ⟨by decide +kernel, by decide +kernel⟩⟩

/-- A marker that is spelled with an escape by number is there for the reader, but not for the look at
the text. -/
theorem ofText_of_escaped_marker :
    let escaped := announced "\"\\u0072equests~attach\":[]"
    Record.ofText escaped = .ok announcement ∧
      ofJson announcement = .ok (.offer ⟨"a", "b", none, none, announcement⟩) ∧
      ofText (announced "\"requests~attach\":[]") =
        .ok (.offer ⟨"a", "b", none, none, announcement⟩) ∧
      ofText escaped = .error (.unknownFormat escaped) := by
  decide +kernel

end CredentialWallet.Preview
