import CredentialWallet.Connection
import CredentialWallet.Listing
import CredentialWallet.Proofs.Fields
/-!
# Records that are recovered from what was written

Every record of the agency is an object of named fields, and reading it back gives the same record if
nothing in it is written in a way that reads as absent. For a field of any shape that means that it must
not hold a null, and a record that was read never does: a null there was taken for an absent field. So
whatever is accepted, in whatever form, is stable once it has been written.
-/

namespace CredentialWallet

def Json.members : Json → Entries
  | .object entries => entries
  | _ => []

namespace Entries

/-- The keys of an object are some of these, in their order. -/
def KeysAmong (entries : Entries) (keys : List String) : Prop := (entries.map Prod.fst).Sublist keys

theorem keysAmong_self (entries : Entries) : entries.KeysAmong (entries.map Prod.fst) :=
  List.Sublist.refl _

theorem keysAmong_optional (key : String) (value : Option Json) : (optional key value).KeysAmong [key] :=
  map_fst_optional_sublist key value

theorem KeysAmong.append {front back : Entries} {keys others : List String} (hfront : front.KeysAmong keys)
    (hback : back.KeysAmong others) : Entries.KeysAmong (front ++ back) (keys ++ others) := by
  rw [KeysAmong, List.map_append]
  exact List.Sublist.append hfront hback

theorem KeysAmong.nodup {entries : Entries} {keys : List String} (h : entries.KeysAmong keys)
    (hkeys : keys.Nodup) : (entries.map Prod.fst).Nodup := hkeys.sublist h

end Entries

namespace Record

def unset {α : Type} (name : String) (value : Option α) : List String :=
  if value.isNone then [name] else []

@[simp] theorem mem_unset {α : Type} {name key : String} {value : Option α} :
    key ∈ unset name value ↔ value = none ∧ key = name := by
  cases value <;> simp [unset]

/-- Records that are read by a shape and written as an object. -/
class Shaped (τ : Type) [Codec τ] where
  name : String
  shape {α : Type} [Readable α] : Shape α τ
  read_eq {α : Type} [Readable α] (a : α) : Codec.read a = shape.read name a := by intros; rfl
  coherent {α : Type} [Readable α] : (shape (α := α)).Coherent
  write_eq (r : τ) : Codec.write r = .object (Codec.write r).members := by intros; rfl
  nodup_keys (r : τ) : ((Codec.write r).members.map Prod.fst).Nodup
  /-- The optional fields that a record has no value for. -/
  absent : τ → List String := fun _ => []
  get?_absent (r : τ) {key : String} (h : key ∈ absent r) : (Codec.write r).get? key = none := by
    intros
    contradiction

variable {τ : Type} [Codec τ]

/-- Records are recovered from what is written for them, which names no field without a value, and those
that are read can be recovered. -/
structure RoundTrips (τ : Type) [Codec τ] [Shaped τ] (Recoverable : τ → Prop) : Prop where
  write_eq_object (r : τ) : ∃ entries, Codec.write r = .object entries ∧
    ∀ key ∈ Shaped.absent r, Entries.get? entries key = none
  ofJson_write_iff (r : τ) : ofJson (Codec.write r) = .ok r ↔ Recoverable r
  ofJson_write_of_read {α : Type} [Readable α] [LawfulReadable α] {a : α} {r : τ}
    (h : Codec.read a = .ok r) : ofJson (Codec.write r) = .ok r

section

variable [Shaped τ] {Recoverable : τ → Prop}

theorem ofJson_write {r : τ} (h : Shaped.shape.build (Codec.write r).members = .ok r) :
    ofJson (Codec.write r) = .ok r := by
  have := Shaped.coherent (τ := τ) (α := Json)
  rw [ofJson, Shaped.read_eq, Shaped.write_eq]
  exact Shape.read_object (Shaped.nodup_keys r) h

theorem exists_build_of_read {α : Type} [Readable α] {a : α} {r : τ} (h : Codec.read a = .ok r) :
    ∃ slots : Slots α, Shaped.shape.build slots = .ok r := by
  rw [Shaped.read_eq] at h
  exact Shape.exists_build_of_read h

theorem RoundTrips.of_build
    (hwrite : ∀ r : τ, Recoverable r → Shaped.shape.build (Codec.write r).members = .ok r)
    (hread : ∀ {α : Type} [Readable α] [LawfulReadable α] {slots : Slots α} {r : τ},
      Shaped.shape.build slots = .ok r → Recoverable r) : RoundTrips τ Recoverable where
  write_eq_object r := ⟨_, Shaped.write_eq r, fun key hkey => by
    have hnone := Shaped.get?_absent r hkey
    rw [Shaped.write_eq] at hnone
    exact hnone⟩
  ofJson_write_iff r := by
    refine ⟨fun h => ?_, fun h => ofJson_write (hwrite r h)⟩
    obtain ⟨slots, hslots⟩ := exists_build_of_read h
    exact hread hslots
  ofJson_write_of_read h := by
    obtain ⟨slots, hslots⟩ := exists_build_of_read h
    exact ofJson_write (hwrite _ (hread hslots))

theorem RoundTrips.recoverable_of_read (h : RoundTrips τ Recoverable) {α : Type} [Readable α]
    [LawfulReadable α] {a : α} {r : τ} (hread : Codec.read a = .ok r) : Recoverable r :=
  (h.ofJson_write_iff r).1 (h.ofJson_write_of_read hread)

end

end Record

open Record

/-! ### Connections -/

namespace Party

/-- The document is not a null. -/
def IsRecoverable (p : Party) : Prop := p.didDoc ≠ some .null

instance : Shaped Party where
  name := "ConnectionAgentInfo"
  shape := Party.shape
  coherent := by
    intros
    unfold Party.shape
    infer_instance
  nodup_keys p := (((Entries.keysAmong_optional "did" _).append
    (Entries.keysAmong_optional "did_doc" _)).append (Entries.keysAmong_self _)).nodup (by simp)
  absent p := unset "did" p.did ++ unset "did_doc" p.didDoc
  get?_absent p key h := by
    simp only [List.mem_append, mem_unset] at h
    rcases h with ⟨h, rfl⟩ | ⟨h, rfl⟩ <;>
      simp [Codec.write, toJson, Json.get?, Entries.get?, optionalText, List.lookup_append,
        List.lookup_cons, h]

theorem roundTrips : RoundTrips Party IsRecoverable := by
  refine .of_build (fun p h => ?_) fun h => ?_
  · simp [Shaped.shape, shape, Codec.write, toJson, Json.members, optionalText, List.lookup_append,
      List.lookup_cons, readSlot_free h, Except.map]
  · simp only [Shaped.shape, shape, Shape.build_seq_eq_ok_iff, Shape.build_map_eq_ok_iff] at h
    obtain ⟨_, ⟨_, ⟨_, ⟨_, ⟨_, _, rfl⟩, _, _, rfl⟩, _, _, rfl⟩, doc, hdoc, rfl⟩, _, _, rfl⟩ := h
    rintro rfl
    obtain ⟨a, ha⟩ := Shape.exists_of_build_optional hdoc
    exact ne_null_of_readOption ha rfl

end Party

namespace Connection

/-- Neither end holds a null for its document. -/
structure IsRecoverable (c : Connection) : Prop where
  own : c.own.IsRecoverable
  remote : c.remote.IsRecoverable

instance : Shaped Connection where
  name := "ConnectionInfo"
  shape := Connection.shape
  coherent := by
    intros
    unfold Connection.shape
    infer_instance
  nodup_keys c := by simp [Codec.write, toJson, Json.members]

theorem roundTrips : RoundTrips Connection IsRecoverable := by
  refine .of_build (fun c h => ?_) fun h => ?_
  · have hown : (Codec.read c.own.toJson : Except Error Party) = .ok c.own :=
      (Party.roundTrips.ofJson_write_iff c.own).2 h.own
    have hremote : (Codec.read c.remote.toJson : Except Error Party) = .ok c.remote :=
      (Party.roundTrips.ofJson_write_iff c.remote).2 h.remote
    simp [Shaped.shape, shape, Codec.write, toJson, Json.members, List.lookup_cons, hown, hremote,
      Except.map]
  · simp only [Shaped.shape, shape, Shape.build_seq_eq_ok_iff, Shape.build_map_eq_ok_iff] at h
    obtain ⟨_, ⟨_, ⟨_, ⟨_, ⟨_, _, rfl⟩, _, _, rfl⟩, _, _, rfl⟩, own, hown, rfl⟩, remote, hremote, rfl⟩ := h
    obtain ⟨_, _, hown⟩ := Shape.build_required_eq_ok_iff.1 hown
    obtain ⟨_, _, hremote⟩ := Shape.build_required_eq_ok_iff.1 hremote
    exact ⟨Party.roundTrips.recoverable_of_read hown, Party.roundTrips.recoverable_of_read hremote⟩

end Connection

/-! ### Listings -/

namespace Listing

variable {τ : Type} [Codec τ]

instance : Shaped (Listing τ) where
  name := "ListResponse"
  shape := Listing.shape
  coherent := by
    intros
    unfold Listing.shape
    infer_instance
  nodup_keys l := by simp [Codec.write, toJson, Json.members]

theorem exists_read_of_mem_of_build {α : Type} [Readable α] {slots : Slots α} {l : Listing τ}
    (h : Shaped.shape.build slots = .ok l) : ∀ item ∈ l.items, ∃ b : α, Codec.read b = .ok item := by
  simp only [Shaped.shape, shape, Shape.build_seq_eq_ok_iff, Shape.build_map_eq_ok_iff] at h
  obtain ⟨_, ⟨_, _, rfl⟩, items, hitems, rfl⟩ := h
  rw [Shape.build_defaulted] at hitems
  split at hitems
  · exact readList_eq_ok hitems
  · cases hitems
    simp

theorem exists_read_of_mem {α : Type} [Readable α] {a : α} {l : Listing τ} (h : Codec.read a = .ok l) :
    ∀ item ∈ l.items, ∃ b : α, Codec.read b = .ok item := by
  obtain ⟨slots, hslots⟩ := exists_build_of_read h
  exact exists_read_of_mem_of_build hslots

theorem roundTrips {Recoverable : τ → Prop}
    (hwrite : ∀ item : τ, Recoverable item → ofJson (Codec.write item) = .ok item)
    (hread : ∀ {α : Type} [Readable α] [LawfulReadable α] {a : α} {item : τ},
      Codec.read a = .ok item → Recoverable item) :
    RoundTrips (Listing τ) fun l => ∀ item ∈ l.items, Recoverable item := by
  refine .of_build (fun l h => ?_) fun h item hitem => ?_
  · have hitems : readList Codec.read (Json.array (l.items.map Codec.write)) = .ok l.items :=
      readList_array fun item hitem => hwrite item (h item hitem)
    simp [Shaped.shape, shape, Codec.write, toJson, Json.members, List.lookup_cons, hitems, Except.map]
  · obtain ⟨b, hb⟩ := exists_read_of_mem_of_build h item hitem
    exact hread hb

end Listing

end CredentialWallet
