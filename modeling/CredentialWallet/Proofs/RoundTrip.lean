import CredentialWallet.Descriptor
import CredentialWallet.Invitation
import CredentialWallet.Agent
import CredentialWallet.Preview
import CredentialWallet.Settings
import CredentialWallet.Proofs.Canonical
/-!
# Every record of the protocol is recovered

Each record is taken through the same two steps: what is built from its written form is the record, and
what is built from anything can be recovered. Only a field of any shape stands in the way of the first,
and a payload, which is no field at all; the reader of optional fields sees to the second.
-/

namespace CredentialWallet

open Record

/-! ### Agents and invitations -/

namespace Agent

instance : Shaped Agent where
  name := "AgentInfo"
  shape := Agent.shape
  coherent := by
    intros
    unfold Agent.shape
    infer_instance
  nodup_keys a := (((Entries.keysAmong_optional "creation_time" _).append
    (Entries.keysAmong_optional "did" _)).append (Entries.keysAmong_self _)).nodup (by simp)
  absent a := unset "creation_time" a.creationTime ++ unset "did" a.did
  get?_absent a key h := by
    simp only [List.mem_append, mem_unset] at h
    rcases h with ⟨h, rfl⟩ | ⟨h, rfl⟩ <;>
      simp [Codec.write, toJson, Json.get?, Entries.get?, optionalText, List.lookup_append,
        List.lookup_cons, h]

theorem roundTrips : RoundTrips Agent fun _ => True := by
  refine .of_build (fun a _ => ?_) fun _ => trivial
  simp [Shaped.shape, shape, Codec.write, toJson, Json.members, optionalText, List.lookup_append,
    List.lookup_cons, Except.map]

end Agent

namespace Invitation

instance : Shaped Invitation where
  name := "InvitationInfo"
  shape := Invitation.shape
  coherent := by
    intros
    unfold Invitation.shape
    infer_instance
  nodup_keys i := ((((Entries.keysAmong_self _).append
    (Entries.keysAmong_optional "recipient_key" _)).append
    (Entries.keysAmong_optional "short_url" _)).append (Entries.keysAmong_self _)).nodup (by simp)
  absent i := unset "recipient_key" i.recipientKey ++ unset "short_url" i.shortUrl
  get?_absent i key h := by
    simp only [List.mem_append, mem_unset] at h
    rcases h with ⟨h, rfl⟩ | ⟨h, rfl⟩ <;>
      simp [Codec.write, toJson, Json.get?, Entries.get?, optionalText, List.lookup_append,
        List.lookup_cons, h]

theorem roundTrips : RoundTrips Invitation fun _ => True := by
  refine .of_build (fun i _ => ?_) fun _ => trivial
  simp [Shaped.shape, shape, Codec.write, toJson, Json.members, optionalText, List.lookup_append,
    List.lookup_cons, Except.map]

namespace Submission

instance : Shaped Submission where
  name := "InvitationProcessRequest"
  shape := Submission.shape
  coherent := by
    intros
    unfold Submission.shape
    infer_instance
  nodup_keys s := by simp [Codec.write, toJson, Json.members]

theorem roundTrips : RoundTrips Submission fun _ => True := by
  refine .of_build (fun s _ => ?_) fun _ => trivial
  simp [Shaped.shape, shape, Codec.write, toJson, Json.members, List.lookup_cons, Except.map]

end Submission

end Invitation

/-! ### Updates -/

namespace Connection.Update

instance : Shaped Update where
  name := "ConnectionUpdate"
  shape := Update.shape
  coherent := by
    intros
    unfold Update.shape
    infer_instance
  nodup_keys u := ((Entries.keysAmong_optional "properties" _).append
    (Entries.keysAmong_self _)).nodup (by simp)
  absent u := unset "properties" u.properties
  get?_absent u key h := by
    obtain ⟨hnone, rfl⟩ := mem_unset.1 h
    simp [Codec.write, toJson, Json.get?, Entries.get?, List.lookup_append, List.lookup_cons, hnone]

theorem roundTrips : RoundTrips Update fun _ => True := by
  refine .of_build (fun u _ => ?_) fun _ => trivial
  simp [Shaped.shape, shape, Codec.write, toJson, Json.members, List.lookup_append, List.lookup_cons,
    Except.map]

end Connection.Update

namespace Credential.Update

instance : Shaped Update where
  name := "CredentialUpdate"
  shape := Update.shape
  coherent := by
    intros
    unfold Update.shape
    infer_instance
  nodup_keys u := ((Entries.keysAmong_optional "properties" _).append
    (Entries.keysAmong_self _)).nodup (by simp)
  absent u := unset "properties" u.properties
  get?_absent u key h := by
    obtain ⟨hnone, rfl⟩ := mem_unset.1 h
    simp [Codec.write, toJson, Json.get?, Entries.get?, List.lookup_append, List.lookup_cons, hnone]

theorem roundTrips : RoundTrips Update fun _ => True := by
  refine .of_build (fun u _ => ?_) fun _ => trivial
  simp [Shaped.shape, shape, Codec.write, toJson, Json.members, List.lookup_append, List.lookup_cons,
    Except.map]

end Credential.Update

/-! ### Verifications -/

namespace Verification

/-- Nothing of any shape in the verification is a null. -/
structure IsRecoverable (v : Verification) : Prop where
  connection : ∀ c ∈ v.connection, c.IsRecoverable
  info : v.info ≠ some .null
  proofRequest : v.proofRequest ≠ some .null

instance : Shaped Verification where
  name := "VerificationInfo"
  shape := Verification.shape
  coherent := by
    intros
    unfold Verification.shape
    infer_instance
  nodup_keys v := ((((((((Entries.keysAmong_optional "connection" _).append
    (Entries.keysAmong_self _)).append (Entries.keysAmong_optional "info" _)).append
    (Entries.keysAmong_optional "proof_request" _)).append (Entries.keysAmong_self _)).append
    (Entries.keysAmong_optional "role" _)).append (Entries.keysAmong_self _)).append
    (Entries.keysAmong_optional "verifier_did" _)).nodup (by simp)
  absent v := unset "connection" v.connection ++ unset "info" v.info ++
    unset "proof_request" v.proofRequest ++ unset "role" v.role ++ unset "verifier_did" v.verifierDid
  get?_absent v key h := by
    simp only [List.mem_append, mem_unset] at h
    rcases h with (((⟨h, rfl⟩ | ⟨h, rfl⟩) | ⟨h, rfl⟩) | ⟨h, rfl⟩) | ⟨h, rfl⟩ <;>
      simp [Codec.write, toJson, Json.get?, Entries.get?, optionalText, List.lookup_append,
        List.lookup_cons, h]

theorem roundTrips : RoundTrips Verification IsRecoverable := by
  refine .of_build (fun v h => ?_) fun h => ?_
  · have hconnection : readSlot Codec.read (v.connection.map Connection.toJson) = .ok v.connection :=
      readSlot_map fun c hc => ⟨nofun, (Connection.roundTrips.ofJson_write_iff c).2 (h.connection c hc)⟩
    simp [Shaped.shape, shape, Codec.write, toJson, Json.members, optionalText, List.lookup_append,
      List.lookup_cons, hconnection, readSlot_free h.info, readSlot_free h.proofRequest, Except.map]
  · simp only [Shaped.shape, shape, Shape.build_seq_eq_ok_iff, Shape.build_map_eq_ok_iff] at h
    obtain ⟨_, ⟨_, ⟨_, ⟨_, ⟨_, ⟨_, ⟨_, ⟨_, _, rfl⟩, _, _, rfl⟩, _, _, rfl⟩, _, _, rfl⟩, connection,
      hconnection, rfl⟩, info, hinfo, rfl⟩, request, hrequest, rfl⟩, _, _, rfl⟩ := h
    refine ⟨?_, ?_, ?_⟩
    · rintro c rfl
      obtain ⟨a, ha⟩ := Shape.exists_of_build_optional hconnection
      exact Connection.roundTrips.recoverable_of_read (readOption_eq_some ha).2
    · rintro rfl
      obtain ⟨a, ha⟩ := Shape.exists_of_build_optional hinfo
      exact ne_null_of_readOption ha rfl
    · rintro rfl
      obtain ⟨a, ha⟩ := Shape.exists_of_build_optional hrequest
      exact ne_null_of_readOption ha rfl

namespace Update

instance : Shaped Update where
  name := "VerificationUpdate"
  shape := Update.shape
  coherent := by
    intros
    unfold Update.shape
    infer_instance
  nodup_keys u := by simp [Codec.write, toJson, Json.members]

theorem roundTrips : RoundTrips Update fun _ => True := by
  refine .of_build (fun u _ => ?_) fun _ => trivial
  simp [Shaped.shape, shape, Codec.write, toJson, Json.members, Except.map]

end Update

end Verification

/-! ### Tokens, descriptors and settings -/

namespace Token

instance : Shaped Token where
  name := "TokenInfo"
  shape := Token.shape
  coherent := by
    intros
    unfold Token.shape
    infer_instance
  nodup_keys t := (((((Entries.keysAmong_self _).append
    (Entries.keysAmong_optional "expires_in" _)).append
    (Entries.keysAmong_optional "refresh_token" _)).append
    (Entries.keysAmong_optional "scope" _)).append (Entries.keysAmong_self _)).nodup (by simp)
  absent t := unset "expires_in" t.expiresIn ++ unset "refresh_token" t.refresh ++ unset "scope" t.scope
  get?_absent t key h := by
    simp only [List.mem_append, mem_unset] at h
    rcases h with (⟨h, rfl⟩ | ⟨h, rfl⟩) | ⟨h, rfl⟩ <;>
      simp [Codec.write, toJson, Json.get?, Entries.get?, optionalText, List.lookup_append,
        List.lookup_cons, h]

theorem roundTrips : RoundTrips Token fun _ => True := by
  refine .of_build (fun t _ => ?_) fun _ => trivial
  simp [Shaped.shape, shape, Codec.write, toJson, Json.members, optionalText, List.lookup_append,
    List.lookup_cons, Except.map]

end Token

namespace Descriptor

instance : Shaped Descriptor where
  name := "InitDescriptor"
  shape := Descriptor.shape
  coherent := by
    intros
    unfold Descriptor.shape
    infer_instance
  nodup_keys d := ((((Entries.keysAmong_self _).append
    (Entries.keysAmong_optional "clientSecret" _)).append (Entries.keysAmong_optional "name" _)).append
    (Entries.keysAmong_self _)).nodup (by simp)
  absent d := unset "clientSecret" d.clientSecret ++ unset "name" d.name
  get?_absent d key h := by
    simp only [List.mem_append, mem_unset] at h
    rcases h with ⟨h, rfl⟩ | ⟨h, rfl⟩ <;>
      simp [Codec.write, toJson, Json.get?, Entries.get?, optionalText, List.lookup_append,
        List.lookup_cons, h]

theorem roundTrips : RoundTrips Descriptor fun _ => True := by
  refine .of_build (fun d _ => ?_) fun _ => trivial
  simp [Shaped.shape, shape, Codec.write, toJson, Json.members, optionalText, List.lookup_append,
    List.lookup_cons, Except.map]

end Descriptor

namespace Settings

instance : Shaped Settings where
  name := "ClientConfig"
  shape := Settings.shape
  coherent := by
    intros
    unfold Settings.shape
    infer_instance
  nodup_keys s := by simp [Codec.write, toJson, Json.members]

theorem roundTrips : RoundTrips Settings fun _ => True := by
  refine .of_build (fun s _ => ?_) fun _ => trivial
  simp [Shaped.shape, shape, Codec.write, toJson, Json.members, List.lookup_cons, Except.map]

end Settings

/-! ### Announcements -/

namespace Announcement

variable {kind : Preview.Kind}

instance : Shaped (Announcement kind) where
  name := kind.label ++ "PreviewInfo"
  shape := Announcement.shape
  coherent := by
    intros
    unfold Announcement.shape
    infer_instance
  nodup_keys a := ((((Entries.keysAmong_optional "comment" _).append
    (Entries.keysAmong_self _)).append (Entries.keysAmong_optional "label" _)).append
    (Entries.keysAmong_self _)).nodup (by simp)
  absent a := unset "comment" a.comment ++ unset "label" a.label
  get?_absent a key h := by
    simp only [List.mem_append, mem_unset] at h
    rcases h with ⟨h, rfl⟩ | ⟨h, rfl⟩ <;>
      simp [Codec.write, toJson, Json.get?, Entries.get?, optionalText, List.lookup_append,
        List.lookup_cons, h]

/-- The payload is not written, so only the lack of one is recovered. -/
theorem roundTrips : RoundTrips (Announcement kind) fun a => a.payload = .null := by
  refine .of_build (fun a h => ?_) fun h => ?_
  · simp [Shaped.shape, shape, Codec.write, toJson, Json.members, optionalText, List.lookup_append,
      List.lookup_cons, ← h, Except.map]
  · simp only [Shaped.shape, shape, Shape.build_seq_eq_ok_iff, Shape.build_map_eq_ok_iff] at h
    obtain ⟨_, ⟨_, ⟨_, ⟨_, _, rfl⟩, _, _, rfl⟩, _, _, rfl⟩, _, _, rfl⟩ := h
    rfl

end Announcement

/-! ### All records -/

theorem Listing.roundTrips_of_items {τ : Type} [Codec τ] [Shaped τ] {Recoverable : τ → Prop}
    (h : RoundTrips τ Recoverable) :
    RoundTrips (Listing τ) fun l => ∀ item ∈ l.items, Recoverable item :=
  Listing.roundTrips (fun item => (h.ofJson_write_iff item).2) h.recoverable_of_read

/-- Whatever record is read, it is written as an object without a key for what it lacks, and that is
read back to the same record; and the other way round, a record is read back from what is written for
it if and only if it holds no null where a null reads as absent. -/
theorem Record.every_record_roundTrips :
    RoundTrips Agent (fun _ => True) ∧ RoundTrips Invitation (fun _ => True) ∧
      RoundTrips Party Party.IsRecoverable ∧ RoundTrips Connection Connection.IsRecoverable ∧
      RoundTrips Connection.Update (fun _ => True) ∧ RoundTrips Credential.Update (fun _ => True) ∧
      RoundTrips Verification Verification.IsRecoverable ∧
      RoundTrips Verification.Update (fun _ => True) ∧
      RoundTrips Invitation.Submission (fun _ => True) ∧ RoundTrips Token (fun _ => True) ∧
      RoundTrips Descriptor (fun _ => True) ∧ RoundTrips Settings (fun _ => True) ∧
      RoundTrips Offer (fun a => a.payload = .null) ∧
      RoundTrips ProofRequest (fun a => a.payload = .null) ∧
      RoundTrips (Listing Invitation) (fun _ => True) ∧
      RoundTrips (Listing Connection) (fun l => ∀ c ∈ l.items, c.IsRecoverable) ∧
      RoundTrips (Listing Credential)
        (fun l => ∀ c ∈ l.items, Credential.ofJson c.toJson = .ok c) ∧
      RoundTrips (Listing Verification) (fun l => ∀ v ∈ l.items, v.IsRecoverable) := by
  refine ⟨Agent.roundTrips, Invitation.roundTrips, Party.roundTrips, Connection.roundTrips,
    Connection.Update.roundTrips, Credential.Update.roundTrips, Verification.roundTrips,
    Verification.Update.roundTrips, Invitation.Submission.roundTrips, Token.roundTrips,
    Descriptor.roundTrips, Settings.roundTrips, Announcement.roundTrips, Announcement.roundTrips, ?_,
    Listing.roundTrips_of_items Connection.roundTrips, ?_, Listing.roundTrips_of_items Verification.roundTrips⟩
  · simpa using Listing.roundTrips_of_items Invitation.roundTrips
  · simp only [Credential.ofJson_toJson_iff]
    exact Listing.roundTrips (fun _ => Credential.ofJson_write) Credential.isRecoverable_of_read

end CredentialWallet
