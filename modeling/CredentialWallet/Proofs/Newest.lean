import CredentialWallet.Proofs.Maps
import CredentialWallet.Proofs.StoredOnly
/-!
# The newest view of a record

What is recorded of a record takes the place of the first view of it, or takes that one away. So no
other view is left, whatever is recorded, exactly where no id stands twice. Nothing keeps an agency from
listing an id twice, and then an outdated view outlives the one that was recorded last.
-/

namespace CredentialWallet

namespace Wallet

/-- Whatever is recorded in a wallet, it leaves no view of a record but the newest one. -/
structure KeepsNewestOnly (w : Wallet) : Prop where
  /-- A credential that is not stored is dropped like one that is removed. -/
  dropped : ∀ c : Credential, c.isStored = false →
    w.recordCredential c = w.removeCredential c.id ∧
      (w.recordCredential c).credential? c.id = none ∧
      ∀ d ∈ (w.recordCredential c).credentials, d.id ≠ c.id
  stored : ∀ c : Credential, c.isStored = true →
    ∀ d ∈ (w.recordCredential c).credentials, d.id = c.id → d = c
  verification : ∀ v : Verification,
    ∀ u ∈ (w.recordVerification v).verifications, u.id = v.id → u = v
  connection : ∀ c : Connection,
    ∀ d ∈ (w.recordConnection c).connections, d.id = c.id → d = c
  /-- A connection is recorded as the agency returns it. -/
  updated : ∀ (s : Service) (link : Link) (id : String) (update : Connection.Update) (j k : Journal)
    (c : Connection) (v : Wallet),
    s.perform (.updateConnection id update) link w j = (.ok (.connection c), v, k) →
      ∀ d ∈ v.connections, d.id = c.id → d = c

end Wallet

/-! ### Records with an id -/

theorem Connection.exists_other (c : Connection) : ∃ d : Connection, d.id = c.id ∧ c ≠ d := by
  by_cases hstate : c.state = .connected
  · refine ⟨{ c with state := .rejected }, rfl, fun h => ?_⟩
    have hrejected : c.state = .rejected := congrArg Connection.state h
    rw [hstate] at hrejected
    cases hrejected
  · exact ⟨{ c with state := .connected }, rfl, fun h => hstate (congrArg Connection.state h)⟩

theorem Verification.exists_other (v : Verification) : ∃ u : Verification, u.id = v.id ∧ v ≠ u := by
  by_cases hstate : v.state = .passed
  · refine ⟨{ v with state := .failed }, rfl, fun h => ?_⟩
    have hfailed : v.state = .failed := congrArg Verification.state h
    rw [hstate] at hfailed
    cases hfailed
  · exact ⟨{ v with state := .passed }, rfl, fun h => hstate (congrArg Verification.state h)⟩

theorem Credential.exists_not_stored (id : String) :
    ∃ c : Credential, c.id = id ∧ c.isStored = false :=
  ⟨Sample.credential id .deleted, rfl, rfl⟩

/-! ### Recording -/

namespace Service

theorem perform_updateConnection_eq_ok {s : Service} {link : Link} {id : String}
    {update : Connection.Update} {w v : Wallet} {j k : Journal} {c : Connection}
    (h : s.perform (.updateConnection id update) link w j = (.ok (.connection c), v, k)) :
    v = w.recordConnection c := by
  rcases hasked : s.inquire w (.updateConnection id update) link j with ⟨e | found, i⟩
  · rw [perform_of_error hasked] at h
    cases h
  · rw [perform_of_ok hasked] at h
    obtain ⟨d, _, rfl⟩ := finding_eq_ok hasked
    cases h
    rfl

end Service

namespace Wallet

variable {w : Wallet}

theorem recordCredential_of_not_isStored {c : Credential} (h : c.isStored = false) :
    w.recordCredential c = { w with credentials := w.credentials.eraseP (·.id = c.id) } := by
  simp only [recordCredential, h, Bool.false_eq_true, if_false]

theorem recordCredential_of_isStored {c : Credential} (h : c.isStored = true) :
    w.recordCredential c = { w with credentials := putFirst (·.id = c.id) c w.credentials } := by
  simp only [recordCredential, h, if_true]

/-- Where ids are distinct, the record that is dropped is the only one with its id. -/
theorem recordCredential_eq_removeCredential (hw : DistinctIds Credential.id w.credentials)
    {c : Credential} (h : c.isStored = false) : w.recordCredential c = w.removeCredential c.id := by
  rw [recordCredential_of_not_isStored h, hw.eraseP_eq_filter]
  rfl

/-- A wallet keeps nothing but the newest views exactly if no id stands in it twice. -/
theorem keepsNewestOnly_iff (w : Wallet) : w.KeepsNewestOnly ↔ w.HasDistinctIds := by
  constructor
  · intro h
    refine ⟨?_, ?_, ?_⟩
    · exact (distinctIds_iff_putFirst _ Connection.exists_other).2 h.connection
    · refine (distinctIds_iff_eraseP _).2 fun id => ?_
      obtain ⟨c, rfl, hdropped⟩ := Credential.exists_not_stored id
      have hgone := (h.dropped c hdropped).2.2
      rwa [recordCredential_of_not_isStored hdropped] at hgone
    · exact (distinctIds_iff_putFirst _ Verification.exists_other).2 h.verification
  · intro hw
    have hconnection := (distinctIds_iff_putFirst _ Connection.exists_other).1 hw.connections
    refine ⟨fun c hdropped => ?_, fun c hstored => ?_, ?_, hconnection, ?_⟩
    · have hremoved := recordCredential_eq_removeCredential hw.credentials hdropped
      refine ⟨hremoved, ?_, ?_⟩
      · rw [hremoved, credential?_removeCredential]
      · rw [hremoved]
        exact fun d hd => of_decide_eq_true (List.mem_filter.1 hd).2
    · rw [recordCredential_of_isStored hstored]
      refine (forall_mem_putFirst_iff _).2 fun d hd => ?_
      rw [(distinctIds_iff _).1 hw.credentials] at hd
      cases hd
    · exact (distinctIds_iff_putFirst _ Verification.exists_other).1 hw.verifications
    · intro s link id update j k c v hperformed
      rw [Service.perform_updateConnection_eq_ok hperformed]
      exact hconnection c

end Wallet

end CredentialWallet

namespace CredentialWallet.Sample

/-- An agency that lists one stored credential two times, and nothing else. -/
def repeating : Agency :=
  let nothing := answering (braced ["\"items\":[]"])
  turns [answering (braced ["\"id\":\"a\",", "\"name\":\"holder\",", "\"url\":\"\""]), nothing,
    nothing, answering (braced (["\"items\":["] ++ credentialText "2" "stored" ++ [","] ++
      credentialText "2" "stored" ++ ["]"])), nothing]

/-- The wallet that is opened there. -/
def repeated : Wallet :=
  { opened with credentials := [credential "2" .stored, credential "2" .stored] }

end CredentialWallet.Sample

namespace CredentialWallet.Wallet

open Sample

/-- A credential that was deleted is still found in the wallet, since the agency listed it twice. -/
theorem credential?_recordCredential_repeated :
    (opener.initiate login [] (.up repeating) []).1 = .ok repeated ∧
      (credential "2" .deleted).isStored = false ∧
      (repeated.recordCredential (credential "2" .deleted)).credential? "2" =
        some (credential "2" .stored) := by
  decide +kernel

end CredentialWallet.Wallet
