import CredentialWallet.Proofs.Arrival
import CredentialWallet.Proofs.Keyed
/-!
# A wallet as three maps

As long as no list of the agency names an id twice, a wallet never holds two records of one kind with
the same id, and what can be looked up in it changes like three maps would: by what the operations
return, one id at a time, whichever ids the agency puts into its answers.
-/

namespace CredentialWallet

/-! ### Maps -/

/-- What can be looked up in a wallet. -/
structure Maps where
  connections : String → Option Connection
  credentials : String → Option Credential
  verifications : String → Option Verification

def Wallet.maps (w : Wallet) : Maps where
  connections := lookup Connection.id w.connections
  credentials := w.credential?
  verifications := w.verification?

theorem Wallet.maps_eq (w : Wallet) :
    w.maps = ⟨lookup Connection.id w.connections, lookup Credential.id w.credentials,
      lookup Verification.id w.verifications⟩ := rfl

/-- No two records of one kind have the same id. -/
structure Holdings.HasDistinctIds (h : Holdings) : Prop where
  connections : DistinctIds Connection.id h.connections
  credentials : DistinctIds Credential.id h.credentials
  verifications : DistinctIds Verification.id h.verifications

namespace Service

/-! ### Effects of operations -/

namespace Operation

def onConnections : Operation → Except Mishap Finding → Effect Connection
  | .updateConnection _ _, .ok (.connection c) => .set c.id (some c)
  | .reload _, .ok (.holdings h) => .replace h.connections
  | _, _ => .keep

def onCredentials : Operation → Except Mishap Finding → Effect Credential
  | .actOnOffer _ _, .ok (.credential c) => .set c.id (if c.isStored then some c else none)
  | .deleteCredential id, .ok .deleted => .set id none
  | .reload _, .ok (.holdings h) => .replace h.credentials
  | _, _ => .keep

def onVerifications : Operation → Except Mishap Finding → Effect Verification
  | .actOnProofRequest _ _, .ok (.verification v) => .set v.id (some v)
  | .shareProof _, .ok (.verification v) => .set v.id (some v)
  | .rejectProof _, .ok (.verification v) => .set v.id (some v)
  | .reload _, .ok (.holdings h) => .replace h.verifications
  | _, _ => .keep

def onInvitations : Operation → Except Mishap Finding → List Invitation → List Invitation
  | .actOnOffer offer _, .ok (.credential _) =>
    List.filter fun i => ¬ (i.url = offer.url ∨ i.shortUrl = some offer.url)
  | .actOnProofRequest request .generate, .ok (.verification _) =>
    List.filter fun i => ¬ (i.url = request.url ∨ i.shortUrl = some request.url)
  | .reload _, .ok (.holdings h) => fun _ => h.invitations
  | _, _ => id

end Operation

variable {w : Wallet}

theorem conclude_connections_makes (hw : DistinctIds Connection.id w.connections)
    (operation : Operation) (found : Except Mishap Finding) (k : Journal) :
    (operation.onConnections found).Makes Connection.id w.connections
      (operation.conclude w (found, k)).2.1.connections := by
  rcases found with e | found
  · cases operation <;> exact Effect.makes_keep _ hw
  cases operation with
  | updateConnection id update =>
    cases found with
    | connection c => exact Effect.makes_putFirst _ hw c
    | _ => exact Effect.makes_keep _ hw
  | reload order =>
    cases found with
    | holdings h => exact Effect.makes_replace _ h.connections
    | _ => exact Effect.makes_keep _ hw
  | actOnProofRequest request action =>
    cases action <;> cases found <;> exact Effect.makes_keep _ hw
  | _ => cases found <;> exact Effect.makes_keep _ hw

theorem conclude_credentials_makes (hw : DistinctIds Credential.id w.credentials)
    (operation : Operation) (found : Except Mishap Finding) (k : Journal) :
    (operation.onCredentials found).Makes Credential.id w.credentials
      (operation.conclude w (found, k)).2.1.credentials := by
  rcases found with e | found
  · cases operation <;> exact Effect.makes_keep _ hw
  cases operation with
  | actOnOffer offer action =>
    cases found with
    | credential c =>
      simp only [Operation.onCredentials, Operation.conclude, Operation.record,
        Wallet.recordCredential]
      split
      · exact Effect.makes_putFirst _ hw c
      · exact Effect.makes_eraseP _ hw c.id
    | _ => exact Effect.makes_keep _ hw
  | deleteCredential id =>
    cases found with
    | deleted => exact Effect.makes_filter _ hw id
    | _ => exact Effect.makes_keep _ hw
  | reload order =>
    cases found with
    | holdings h => exact Effect.makes_replace _ h.credentials
    | _ => exact Effect.makes_keep _ hw
  | actOnProofRequest request action =>
    cases action <;> cases found <;> exact Effect.makes_keep _ hw
  | _ => cases found <;> exact Effect.makes_keep _ hw

theorem conclude_verifications_makes (hw : DistinctIds Verification.id w.verifications)
    (operation : Operation) (found : Except Mishap Finding) (k : Journal) :
    (operation.onVerifications found).Makes Verification.id w.verifications
      (operation.conclude w (found, k)).2.1.verifications := by
  rcases found with e | found
  · cases operation <;> exact Effect.makes_keep _ hw
  cases operation with
  | actOnProofRequest request action =>
    cases found with
    | verification v => cases action <;> exact Effect.makes_putFirst _ hw v
    | _ => cases action <;> exact Effect.makes_keep _ hw
  | shareProof id =>
    cases found with
    | verification v => exact Effect.makes_putFirst _ hw v
    | _ => exact Effect.makes_keep _ hw
  | rejectProof id =>
    cases found with
    | verification v => exact Effect.makes_putFirst _ hw v
    | _ => exact Effect.makes_keep _ hw
  | reload order =>
    cases found with
    | holdings h => exact Effect.makes_replace _ h.verifications
    | _ => exact Effect.makes_keep _ hw
  | _ => cases found <;> exact Effect.makes_keep _ hw

theorem conclude_invitations (operation : Operation) (found : Except Mishap Finding) (k : Journal) :
    (operation.conclude w (found, k)).2.1.invitations =
      operation.onInvitations found w.invitations := by
  rcases found with e | found
  · cases operation with
    | actOnProofRequest request action => cases action <;> rfl
    | _ => rfl
  cases operation with
  | actOnOffer offer action =>
    cases found with
    | credential c => exact w.invitations_removeInvitation offer.url
    | _ => rfl
  | actOnProofRequest request action =>
    cases action with
    | generate =>
      cases found with
      | verification v =>
        exact (w.recordVerification v).invitations_removeInvitation request.url
      | _ => rfl
    | _ => cases found <;> rfl
  | _ => cases found <;> rfl

/-- Only a reload brings more than one record of a kind. -/
theorem bringsDistinctIds (operation : Operation) (found : Except Mishap Finding)
    (h : ∀ order holdings, operation = .reload order → found = .ok (.holdings holdings) →
      holdings.HasDistinctIds) :
    (operation.onConnections found).BringsDistinctIds Connection.id ∧
      (operation.onCredentials found).BringsDistinctIds Credential.id ∧
      (operation.onVerifications found).BringsDistinctIds Verification.id := by
  rcases found with e | found
  · cases operation <;> exact ⟨trivial, trivial, trivial⟩
  cases operation with
  | reload order =>
    cases found with
    | holdings holdings =>
      have hids := h order holdings rfl rfl
      exact ⟨hids.connections, hids.credentials, hids.verifications⟩
    | _ => exact ⟨trivial, trivial, trivial⟩
  | _ => cases found <;> exact ⟨trivial, trivial, trivial⟩

end Service

/-! ### Steps -/

/-- The maps after a step. -/
def Maps.after (m : Maps) (step : Service.Step) : Maps where
  connections := (step.operation.onConnections step.found).onMap Connection.id m.connections
  credentials := (step.operation.onCredentials step.found).onMap Credential.id m.credentials
  verifications := (step.operation.onVerifications step.found).onMap Verification.id m.verifications

namespace Service

namespace Step

variable (s : Service) (link : Link) (step : Step)

/-- In no list that the agency answers during a step two records have the same id. -/
structure ListsDistinctIds : Prop where
  connections : ∀ listed : List Connection,
    Holdings.Listed s.gateway step.before.1.accessToken s.verificationState link step.before.2
      step.after.2 .connections listed → DistinctIds Connection.id listed
  credentials : ∀ listed : List Credential,
    Holdings.Listed s.gateway step.before.1.accessToken s.verificationState link step.before.2
      step.after.2 .credentials listed → DistinctIds Credential.id listed
  verifications : ∀ listed : List Verification,
    Holdings.Listed s.gateway step.before.1.accessToken s.verificationState link step.before.2
      step.after.2 .verifications listed → DistinctIds Verification.id listed

/-- A step tells what it found, and changes the wallet by the effect of that and by nothing else. -/
structure IsFaithful : Prop where
  told : step.told = step.found.map Finding.outcome
  fetched : ∀ h, step.found = .ok (.holdings h) →
    h.IsFetched s.gateway step.before.1.accessToken s.verificationState link step.before.2
      step.after.2
  connections : (step.operation.onConnections step.found).KeepsOthers Connection.id
    step.before.1.connections step.after.1.connections
  credentials : (step.operation.onCredentials step.found).KeepsOthers Credential.id
    step.before.1.credentials step.after.1.credentials
  verifications : (step.operation.onVerifications step.found).KeepsOthers Verification.id
    step.before.1.verifications step.after.1.verifications
  invitations : step.after.1.invitations =
    step.operation.onInvitations step.found step.before.1.invitations

variable {s link step}

theorem ListsDistinctIds.holdings {h : Holdings} (hlists : step.ListsDistinctIds s link)
    (hfetched : h.IsFetched s.gateway step.before.1.accessToken s.verificationState link
      step.before.2 step.after.2) : h.HasDistinctIds where
  connections := hlists.connections _ hfetched.connections
  credentials := by
    obtain ⟨listed, hlisted, hstored⟩ := hfetched.credentials
    rw [hstored]
    exact (hlists.credentials _ hlisted).filter _ _
  verifications := hlists.verifications _ hfetched.verifications

end Step

variable {s : Service} {link : Link}

theorem step_after (operation : Operation) (state : Wallet × Journal) :
    (s.step link operation state).after =
      (operation.conclude state.1 ((s.step link operation state).found,
        (s.step link operation state).after.2)).2 := by
  rcases hasked : s.inquire state.1 operation link state.2 with ⟨e | found, k⟩
  · simp only [step, hasked, perform_of_error hasked, Operation.conclude]
  · simp only [step, hasked, perform_of_ok hasked, Operation.conclude]

theorem isFetched_of_step {operation : Operation} {state : Wallet × Journal} {h : Holdings}
    (hfound : (s.step link operation state).found = .ok (.holdings h)) :
    h.IsFetched s.gateway state.1.accessToken s.verificationState link state.2
      (s.step link operation state).after.2 := by
  rcases hasked : s.inquire state.1 operation link state.2 with ⟨r, k⟩
  simp only [step, hasked] at hfound
  subst hfound
  simp only [step, perform_of_ok hasked]
  exact isFetched_of_inquire hasked

/-- One step of the wallet is one step of the maps. -/
theorem step_refines_maps (operation : Operation) (state : Wallet × Journal)
    (hw : state.1.HasDistinctIds)
    (hlists : ∀ order, operation = .reload order →
      (s.step link operation state).ListsDistinctIds s link) :
    (s.step link operation state).after.1.HasDistinctIds ∧
      (s.step link operation state).after.1.maps = state.1.maps.after (s.step link operation state) ∧
      (s.step link operation state).IsFaithful s link := by
  have hfresh : ∀ order holdings, operation = .reload order →
      (s.step link operation state).found = .ok (.holdings holdings) → holdings.HasDistinctIds :=
    fun order _ hreload hfound => (hlists order hreload).holdings (isFetched_of_step hfound)
  obtain ⟨hconnectionIds, hcredentialIds, hverificationIds⟩ := bringsDistinctIds operation _ hfresh
  have hconnections := conclude_connections_makes hw.connections operation
    (s.step link operation state).found (s.step link operation state).after.2
  have hcredentials := conclude_credentials_makes hw.credentials operation
    (s.step link operation state).found (s.step link operation state).after.2
  have hverifications := conclude_verifications_makes hw.verifications operation
    (s.step link operation state).found (s.step link operation state).after.2
  have hinvitations := conclude_invitations (w := state.1) operation
    (s.step link operation state).found (s.step link operation state).after.2
  rw [← step_after] at hconnections hcredentials hverifications hinvitations
  refine ⟨?_, ?_, ?_⟩
  · exact ⟨hconnections.distinctIds hconnectionIds, hcredentials.distinctIds hcredentialIds,
      hverifications.distinctIds hverificationIds⟩
  · rw [Wallet.maps_eq, hconnections.lookup_eq, hcredentials.lookup_eq, hverifications.lookup_eq]
    rfl
  · exact ⟨s.step_told link operation state, fun h hfound => isFetched_of_step hfound,
      hconnections.keepsOthers, hcredentials.keepsOthers, hverifications.keepsOthers, hinvitations⟩

/-! ### Runs -/

/-- A run that starts with distinct ids, and in which no list answered to a reload names an id twice,
keeps the ids distinct. What can be looked up at its end is what its steps make of three maps, and each
step leaves all else as it was: records in their order, and invitations other than those it drops. -/
theorem run_refines_maps {s : Service} {link : Link} {operations : List Operation} {w : Wallet}
    {j : Journal} (hw : w.HasDistinctIds)
    (hlists : ∀ step ∈ s.steps link operations (w, j), ∀ order, step.operation = .reload order →
      step.ListsDistinctIds s link) :
    (s.run link operations (w, j)).1.HasDistinctIds ∧
      (s.run link operations (w, j)).1.maps =
        (s.steps link operations (w, j)).foldl Maps.after w.maps ∧
      ∀ step ∈ s.steps link operations (w, j), step.IsFaithful s link := by
  induction operations generalizing w j with
  | nil => exact ⟨hw, rfl, fun _ h => absurd h List.not_mem_nil⟩
  | cons operation rest ih =>
    obtain ⟨hids, hmaps, hfaithful⟩ := step_refines_maps operation (w, j) hw
      fun order => hlists _ List.mem_cons_self order
    obtain ⟨hrestIds, hrestMaps, hrestFaithful⟩ := ih (j := (s.step link operation (w, j)).after.2)
      hids fun step hstep => hlists step (List.mem_cons_of_mem _ hstep)
    refine ⟨hrestIds, ?_, List.forall_mem_cons.2 ⟨hfaithful, hrestFaithful⟩⟩
    rw [steps, List.foldl_cons, ← hmaps]
    exact hrestMaps

end Service

end CredentialWallet

namespace CredentialWallet.Sample

/-- A wallet with some of the records that the agency lists, and some others. -/
def held : Wallet := { wallet with
  connections := [connection "k2", connection "k3"]
  credentials := [credential "2" .stored, credential "1" .stored]
  verifications := [verification "v1" .inboundProofRequest, verification "v3" .failed] }

def operations : List Service.Operation := [.reload [], .shareProof "v1", .deleteCredential "1"]

/-- What the wallet holds in the end. -/
def kept : Holdings := { stock with
  credentials := [credential "3" .stored]
  verifications := [verification "v1" .proofShared, verification "v2" .passed] }

theorem itemsOf_of_listed {τ : Type} [Record.Codec τ] {j k : Journal} {part : Holdings.Part}
    {records : List τ} (h : Holdings.Listed service.gateway held.accessToken service.verificationState
      (.up stocked.agency) j k part records) :
    Holdings.itemsOf (Talk.received (asked part) (stocked.reply [] (asked part))) = .ok records := by
  rw [stocked_eq_forgetful] at h
  exact h.items_of_forgetful (prepare_asked part)

def reloaded : Wallet × Journal :=
  ({ held with toHoldings := stock }, Holdings.asking asked Holdings.Part.all)

theorem perform_reload_held :
    service.perform (.reload []) (.up stocked.agency) held [] = (.ok .done, reloaded) :=
  Service.perform_reload_of_ok (fetch_stocked [] [])

end CredentialWallet.Sample

namespace CredentialWallet.Service

open Sample

theorem step_listsDistinctIds_held :
    (service.step (.up stocked.agency) (.reload []) (held, [])).ListsDistinctIds service
      (.up stocked.agency) where
  connections records h := by
    obtain rfl := Except.ok.inj ((itemsOf_of_listed h).symm.trans (read_stocked .connections))
    decide
  credentials records h := by
    obtain rfl := Except.ok.inj ((itemsOf_of_listed h).symm.trans (read_stocked .credentials))
    decide
  verifications records h := by
    obtain rfl := Except.ok.inj ((itemsOf_of_listed h).symm.trans (read_stocked .verifications))
    decide

/-- A wallet with several records is reloaded, and then one of them is replaced and one removed. -/
theorem run_refines_maps_stocked :
    (service.steps (.up stocked.agency) operations (held, [])).map (·.told) =
        [.ok .done, .ok (.verification (verification "v1" .proofShared)), .ok .done] ∧
      (service.run (.up stocked.agency) operations (held, [])).1 = { held with toHoldings := kept } ∧
      (service.run (.up stocked.agency) operations (held, [])).1.maps =
        (service.steps (.up stocked.agency) operations (held, [])).foldl Maps.after held.maps := by
  have hlater :
      (service.steps (.up stocked.agency) [.shareProof "v1", .deleteCredential "1"] reloaded).map (·.told) =
          [.ok (.verification (verification "v1" .proofShared)), .ok .done] ∧
        (service.run (.up stocked.agency) [.shareProof "v1", .deleteCredential "1"] reloaded).1 =
          { held with toHoldings := kept } := by decide +kernel
  obtain ⟨htold, hafter⟩ := step_of_perform perform_reload_held
  have hw : held.HasDistinctIds := ⟨by decide, by decide, by decide⟩
  refine ⟨?_, ?_, (run_refines_maps hw fun step hstep order hreload => ?_).2.1⟩
  · rw [operations, steps, List.map_cons, htold, hafter, hlater.1]
  · rw [operations, run_cons, perform_reload_held]
    exact hlater.2
  · rcases List.mem_cons.1 hstep with rfl | hstep
    · exact step_listsDistinctIds_held
    · rcases List.mem_cons.1 hstep with rfl | hstep
      · cases hreload
      · rcases List.mem_cons.1 hstep with rfl | hstep
        · cases hreload
        · cases hstep

end CredentialWallet.Service
