import CredentialWallet.Proofs.Except
import CredentialWallet.Record.Codec
/-!
# Reading the fields of a record

A record is read through its shape, and all that later proofs need of a shape is `build`: what is put
together from the values found for the fields. For that, what is checked on the way has to agree with
what is built, which it does for every shape made of the three kinds of fields (`Shape.Coherent`). Then
an object without repeated keys is read to whatever the shape builds from it, whatever else it holds.
-/

namespace CredentialWallet

/-! ### Keys of an object -/

namespace Entries

@[simp] theorem lookup_optional (key name : String) (value : Option Json) :
    (optional key value).lookup name = if name = key then value else none := by
  cases value with
  | none => simp [optional]
  | some v =>
    by_cases h : name = key
    · simp [optional, h]
    · have hne : (name == key) = false := beq_false_of_ne h
      simp [optional, List.lookup_cons, h, hne]

theorem map_fst_optional_sublist (key : String) (value : Option Json) :
    ((optional key value).map Prod.fst).Sublist [key] := by
  cases value with
  | none => exact List.nil_sublist _
  | some v => exact List.Sublist.refl _

end Entries

namespace Record

/-! ### What can be read -/

/-- What is null as a free value is null to look at. -/
class LawfulReadable (α : Type) [Readable α] : Prop where
  view_of_free {a : α} (h : Readable.free a = .ok .null) : Readable.view a = .null

instance : LawfulReadable Json where
  view_of_free := by
    rintro a ⟨⟩
    rfl

instance : LawfulReadable Excerpt where
  view_of_free := by
    rintro ⟨draft, depth⟩ h
    change draft.toJson? depth = .ok .null at h
    cases draft with
    | null => rfl
    | array items stop =>
      cases depth with
      | zero => cases h
      | succ depth =>
        rw [Json.Draft.toJson?] at h
        obtain ⟨values, _, h⟩ := bind_eq_ok_iff.1 h
        split at h <;> cases h
    | object entries stop =>
      cases depth with
      | zero => cases h
      | succ depth =>
        rw [Json.Draft.toJson?] at h
        obtain ⟨values, _, h⟩ := bind_eq_ok_iff.1 h
        split at h <;> cases h
    | _ => simp [Json.Draft.toJson?] at h

variable {α β τ : Type}

section

variable [Readable α] {read : α → Except Error τ} {a : α}

theorem readOption_of_ne_null (h : Readable.view a ≠ .null) :
    readOption read a = (read a).map some := by
  rw [readOption]
  split
  · contradiction
  · rfl

theorem readOption_eq_some {t : τ} (h : readOption read a = .ok (some t)) :
    Readable.view a ≠ .null ∧ read a = .ok t := by
  rw [readOption] at h
  split at h
  · cases h
  · rename_i hnull
    obtain ⟨u, hread, hu⟩ := map_eq_ok_iff.1 h
    obtain rfl := Option.some.inj hu
    exact ⟨hnull, hread⟩

theorem readFree_eq_ok {value : Json} (h : readFree a = .ok value) : Readable.free a = .ok value := by
  rw [readFree] at h
  split at h
  · rename_i v hfree
    rw [hfree, Except.ok.inj h]
  · cases h

theorem ne_null_of_readOption [LawfulReadable α] {value : Json}
    (h : readOption readFree a = .ok (some value)) : value ≠ .null := by
  rintro rfl
  obtain ⟨hview, hread⟩ := readOption_eq_some h
  exact hview (LawfulReadable.view_of_free (readFree_eq_ok hread))

theorem readList_eq_ok {items : List τ} (h : readList read a = .ok items) :
    ∀ item ∈ items, ∃ b : α, read b = .ok item := by
  rw [readList] at h
  split at h
  · obtain ⟨values, hvalues, h⟩ := bind_eq_ok_iff.1 h
    split at h
    · cases h
    · obtain rfl := Except.ok.inj h
      intro item hitem
      obtain ⟨b, _, hread⟩ := forall_mem_of_mapM_eq_ok hvalues item hitem
      exact ⟨b, hread⟩
  · cases h

end

/-! ### Values that were written -/

@[simp] theorem readText_string (s : String) : readText (Json.string s) = .ok s := rfl

@[simp] theorem readBool_bool (b : Bool) : readBool (Json.bool b) = .ok b := rfl

@[simp] theorem readFree_json (value : Json) : readFree value = .ok value := rfl

@[simp] theorem readMembers_object (entries : Entries) :
    readMembers (Json.object entries) = .ok entries := rfl

@[simp] theorem readUnsigned_ofNat (expected : String) (n : Nat) :
    readUnsigned expected (Json.ofNat n) = .ok n := by
  simp [readUnsigned, Json.ofNat, Readable.view]

@[simp] theorem readWord_text [Word τ] [Word.Lawful τ] (value : τ) :
    readWord τ (Json.string (Word.text value)) = .ok value := by
  simp [readWord, Word.Lawful.decode?_text]

theorem readList_array {read : Json → Except Error τ} {write : τ → Json} {items : List τ}
    (h : ∀ item ∈ items, read (write item) = .ok item) :
    readList read (.array (items.map write)) = .ok items := by
  simp only [readList, Readable.view, mapM_map_eq_pure h]
  rfl

/-! ### Shapes -/

/-- What an optional field is read to. -/
def readSlot [Readable α] (read : α → Except Error τ) : Option α → Except Error (Option τ)
  | some a => readOption read a
  | none => .ok none

theorem readSlot_map {read : Json → Except Error τ} {write : τ → Json} {value : Option τ}
    (h : ∀ t ∈ value, Readable.view (write t) ≠ .null ∧ read (write t) = .ok t) :
    readSlot read (value.map write) = .ok value := by
  cases value with
  | none => rfl
  | some t =>
    obtain ⟨hview, hread⟩ := h t rfl
    rw [Option.map_some, readSlot, readOption_of_ne_null hview, hread]
    rfl

@[simp] theorem readSlot_text (value : Option String) :
    readSlot readText (value.map Json.string) = .ok value :=
  readSlot_map fun _ _ => ⟨nofun, rfl⟩

@[simp] theorem readSlot_members (value : Option Entries) :
    readSlot readMembers (value.map Json.object) = .ok value :=
  readSlot_map fun _ _ => ⟨nofun, rfl⟩

@[simp] theorem readSlot_unsigned (expected : String) (value : Option Nat) :
    readSlot (readUnsigned expected) (value.map Json.ofNat) = .ok value :=
  readSlot_map fun n _ => ⟨nofun, readUnsigned_ofNat expected n⟩

@[simp] theorem readSlot_word [Word τ] [Word.Lawful τ] (value : Option τ) :
    readSlot (readWord τ) (value.map (Json.string ∘ Word.text)) = .ok value :=
  readSlot_map fun v _ => ⟨nofun, readWord_text v⟩

theorem readSlot_free {value : Option Json} (h : value ≠ some .null) :
    readSlot readFree value = .ok value := by
  cases value with
  | none => rfl
  | some v =>
    have hview : Readable.view v ≠ .null := by
      cases v with
      | null => exact absurd rfl h
      | _ => nofun
    rw [readSlot, readOption_of_ne_null hview, readFree_json]
    rfl

namespace Shape

variable {slots : Slots α}

@[simp] theorem build_map (f : β → τ) (s : Shape α β) : (f <$> s).build slots = (s.build slots).map f := rfl

@[simp] theorem build_seq (f : Shape α (β → τ)) (x : Unit → Shape α β) :
    (Seq.seq f x).build slots =
      match f.build slots with
      | .ok g => ((x ()).build slots).map g
      | .error e => .error e := rfl

@[simp] theorem build_required (name : String) (read : α → Except Error τ) :
    (required name read).build slots =
      match slots.lookup name with
      | some a => read a
      | none => .error (.missing name) := rfl

@[simp] theorem build_optional [Readable α] (name : String) (read : α → Except Error τ) :
    (optional name read).build slots = readSlot read (slots.lookup name) := by
  cases h : slots.lookup name <;> simp [optional, readSlot, h]

@[simp] theorem build_defaulted (name : String) (read : α → Except Error τ) (value : τ) :
    (defaulted name read value).build slots =
      match slots.lookup name with
      | some a => read a
      | none => .ok value := rfl

theorem build_map_eq_ok_iff {f : β → τ} {s : Shape α β} {r : τ} :
    (f <$> s).build slots = .ok r ↔ ∃ b, s.build slots = .ok b ∧ f b = r := map_eq_ok_iff

theorem build_seq_eq_ok_iff {f : Shape α (β → τ)} {x : Unit → Shape α β} {r : τ} :
    (Seq.seq f x).build slots = .ok r ↔
      ∃ g, f.build slots = .ok g ∧ ∃ b, (x ()).build slots = .ok b ∧ g b = r := by
  rw [build_seq]
  cases f.build slots with
  | error e => simp
  | ok g => simp [map_eq_ok_iff]

theorem build_required_eq_ok_iff {name : String} {read : α → Except Error τ} {r : τ} :
    (required name read).build slots = .ok r ↔ ∃ a, slots.lookup name = some a ∧ read a = .ok r := by
  cases h : slots.lookup name <;> simp [build_required, h]

theorem exists_of_build_optional [Readable α] {name : String} {read : α → Except Error τ} {r : τ}
    (h : (optional name read).build slots = .ok (some r)) : ∃ a, readOption read a = .ok (some r) := by
  rw [build_optional] at h
  cases hslot : slots.lookup name with
  | none =>
    rw [hslot] at h
    cases h
  | some a =>
    rw [hslot] at h
    exact ⟨a, h⟩

/-- Whatever a record is built from has passed the checks of its fields. -/
class Coherent (s : Shape α τ) : Prop where
  check_of_build {slots : Slots α} {r : τ} (h : s.build slots = .ok r) {field : Field α}
    (hfield : field ∈ s.fields) {a : α} (ha : slots.lookup field.name = some a) :
    field.check a = .ok ()

theorem map_unit_of_ok {read : Except Error τ} {r : τ} (h : read = .ok r) :
    (read.map fun _ => ()) = .ok () := by
  rw [h]
  rfl

instance (name : String) (read : α → Except Error τ) : Coherent (required name read) where
  check_of_build := by
    intro slots r h field hfield a ha
    obtain rfl := List.mem_singleton.1 hfield
    rw [build_required, ha] at h
    exact map_unit_of_ok h

instance [Readable α] (name : String) (read : α → Except Error τ) : Coherent (optional name read) where
  check_of_build := by
    intro slots r h field hfield a ha
    obtain rfl := List.mem_singleton.1 hfield
    rw [build_optional, ha] at h
    exact map_unit_of_ok h

instance (name : String) (read : α → Except Error τ) (value : τ) :
    Coherent (defaulted name read value) where
  check_of_build := by
    intro slots r h field hfield a ha
    obtain rfl := List.mem_singleton.1 hfield
    rw [build_defaulted, ha] at h
    exact map_unit_of_ok h

instance (f : β → τ) (s : Shape α β) [Coherent s] : Coherent (f <$> s) where
  check_of_build := by
    intro slots r h field hfield a ha
    obtain ⟨b, hb, _⟩ := build_map_eq_ok_iff.1 h
    exact Coherent.check_of_build hb hfield ha

instance (f : Shape α (β → τ)) (x : Unit → Shape α β) [Coherent f] [Coherent (x ())] :
    Coherent (Seq.seq f x) where
  check_of_build := by
    intro slots r h field hfield a ha
    obtain ⟨g, hg, b, hb, _⟩ := build_seq_eq_ok_iff.1 h
    rcases List.mem_append.1 hfield with hfield | hfield
    · exact Coherent.check_of_build hg hfield ha
    · exact Coherent.check_of_build hb hfield ha

theorem exists_build_of_read [Readable α] {name : String} {s : Shape α τ} {a : α} {r : τ}
    (h : s.read name a = .ok r) : ∃ slots, s.build slots = .ok r := by
  rw [read] at h
  split at h
  · split at h
    · cases h
    · cases h
    · exact ⟨_, h⟩
  · split at h
    · cases h
    · split at h
      · cases h
      · exact ⟨_, h⟩
  · cases h

/-! ### Objects -/

theorem checkEntries_eq_ok {fields : List (Field Json)} {seen : List String} {entries : Entries}
    (hkeys : (entries.map Prod.fst).Nodup) (hseen : ∀ key ∈ entries.map Prod.fst, key ∉ seen)
    (hcheck : ∀ field ∈ fields, ∀ a, entries.lookup field.name = some a → field.check a = .ok ()) :
    checkEntries fields seen entries = .ok () := by
  induction entries generalizing seen with
  | nil => rfl
  | cons entry rest ih =>
    obtain ⟨key, a⟩ := entry
    obtain ⟨hfresh, hkeys⟩ := List.nodup_cons.1 hkeys
    have hrest : ∀ field ∈ fields, ∀ b, rest.lookup field.name = some b → field.check b = .ok () := by
      intro field hfield b hb
      refine hcheck field hfield b ?_
      have hne : (field.name == key) = false := by
        refine beq_false_of_ne ?_
        rintro rfl
        obtain ⟨before, behind, rfl, _⟩ := List.lookup_eq_some_iff.1 hb
        exact hfresh (by simp)
      rw [List.lookup_cons, hne]
      exact hb
    rw [checkEntries]
    split
    · exact ih hkeys (fun other hother => hseen other (List.mem_cons_of_mem key hother)) hrest
    · rename_i field hfound
      have hname : field.name = key := by simpa using List.find?_some hfound
      have hpass : field.check a = .ok () := by
        refine hcheck field (List.mem_of_find?_eq_some hfound) a ?_
        rw [hname, List.lookup_cons, beq_self_eq_true]
      rw [if_neg (hseen key List.mem_cons_self), hpass]
      refine ih hkeys (fun other hother => ?_) hrest
      rw [List.mem_cons, not_or]
      constructor
      · rintro rfl
        exact hfresh hother
      · exact hseen other (List.mem_cons_of_mem key hother)

/-- An object without repeated keys is read to what is built from it. -/
theorem read_object {name : String} {s : Shape Json τ} [s.Coherent] {entries : Entries} {r : τ}
    (hkeys : (entries.map Prod.fst).Nodup) (h : s.build entries = .ok r) :
    s.read name (.object entries) = .ok r := by
  have hcheck : checkEntries s.fields [] entries = .ok () :=
    checkEntries_eq_ok hkeys (fun _ _ => List.not_mem_nil)
      fun field hfield a ha => Coherent.check_of_build h hfield ha
  simp only [read, Readable.view, hcheck, h]

end Shape

end Record

end CredentialWallet
