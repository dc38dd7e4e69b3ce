import CredentialWallet.Proofs.Atomicity
import CredentialWallet.Proofs.Fetching
/-!
# Only stored credentials

A wallet holds no credential that is not stored. Fetching keeps the stored ones of those that the agency
lists, and whatever state the agency reports for a credential later, recording it either keeps a stored
credential or drops what was there. So the invariant needs no assumption about the agency.
-/

namespace CredentialWallet

/-- Every credential of a wallet is stored. -/
def Wallet.StoredOnly (w : Wallet) : Prop := ∀ c ∈ w.credentials, c.state = .stored

theorem Holdings.ListedStored.state_eq {g : Gateway} {token : String} {state : VerificationState}
    {link : Link} {j k : Journal} {stored : List Credential}
    (h : ListedStored g token state link j k stored) : ∀ c ∈ stored, c.state = .stored := by
  obtain ⟨listed, _, rfl⟩ := h
  intro c hc
  have hkept : c.isStored = true := (List.mem_filter.1 hc).2
  exact of_decide_eq_true hkept

/-! ### Recording -/

namespace Wallet

variable {w : Wallet}

theorem recordCredential_storedOnly (hw : w.StoredOnly) (c : Credential) :
    (w.recordCredential c).StoredOnly := by
  intro d hd
  rw [recordCredential] at hd
  dsimp only at hd
  split at hd
  · rename_i hstored
    rcases mem_of_mem_putFirst hd with rfl | hd
    · exact of_decide_eq_true hstored
    · exact hw d hd
  · exact hw d (List.mem_of_mem_eraseP hd)

theorem removeCredential_storedOnly (hw : w.StoredOnly) (id : String) :
    (w.removeCredential id).StoredOnly :=
  fun d hd => hw d ((List.mem_filter.1 hd).1)

end Wallet

namespace Service

/-- Whatever an operation found, it records no other credential. -/
theorem record_storedOnly {w : Wallet} (hw : w.StoredOnly) (operation : Operation) {found : Finding}
    (hfound : ∀ h, found = .holdings h → ∀ c ∈ h.credentials, c.state = .stored) :
    (operation.record found w).StoredOnly := by
  cases operation with
  | actOnOffer offer action =>
    cases found with
    | credential c =>
      have hkept : (w.removeInvitation offer.url).StoredOnly := hw
      exact Wallet.recordCredential_storedOnly hkept c
    | _ => exact hw
  | deleteCredential id =>
    cases found with
    | deleted => exact Wallet.removeCredential_storedOnly hw id
    | _ => exact hw
  | reload order =>
    cases found with
    | holdings h => exact hfound h rfl
    | _ => exact hw
  | actOnProofRequest request action => cases action <;> cases found <;> exact hw
  | _ => cases found <;> exact hw

variable {s : Service} {link : Link}

theorem perform_storedOnly {w : Wallet} (hw : w.StoredOnly) (operation : Operation) (j : Journal) :
    (s.perform operation link w j).2.1.StoredOnly := by
  rcases hasked : s.inquire w operation link j with ⟨e | found, k⟩
  · rw [perform_of_error hasked]
    exact hw
  · rw [perform_of_ok hasked]
    refine record_storedOnly hw operation ?_
    rintro h rfl
    have hfetched := isFetched_of_inquire hasked
    exact hfetched.credentials.state_eq

theorem run_storedOnly (s : Service) (link : Link) {w : Wallet} (hw : w.StoredOnly)
    (operations : List Operation) (j : Journal) :
    (s.run link operations (w, j)).1.StoredOnly := by
  induction operations generalizing w j with
  | nil => exact hw
  | cons operation rest ih =>
    rw [run_cons]
    exact ih (perform_storedOnly hw operation j) _

end Service

/-! ### Opening -/

theorem Opener.listedStored_of_initiate {o : Opener} {login : Login} {order : List Holdings.Part} {link : Link}
    {j k : Journal} {w : Wallet} (h : o.initiate login order link j = (.ok w, k)) :
    Holdings.ListedStored ⟨w.baseUri, Text.trimHeader o.settings.userAgent⟩ w.accessToken
      o.settings.verificationState link j k w.credentials := by
  obtain ⟨_, g, _, i, _, -, hnew, htoken, hfetch, rfl⟩ := initiate_eq_ok h
  obtain rfl := Gateway.new_eq_ok hnew
  have hgranted : j <+: i := (o.provider.ask_keepsTo _ _).isPrefix htoken
  have hfetched := Holdings.fetch_eq_ok hfetch
  exact hfetched.credentials.mono hgranted List.prefix_rfl

/-! ### Runs of a wallet that was opened -/

/-- Every run of a service on a wallet that was opened, with operations that succeed or fail, leaves
stored credentials only. Right after the opening and right after a reload they are exactly the stored
ones among those that the agency listed, in the order in which it listed them. -/
theorem Service.run_storedOnly_of_initiate {o : Opener} {login : Login} {order : List Holdings.Part}
    {link : Link} {j k : Journal} {w : Wallet} (h : o.initiate login order link j = (.ok w, k)) :
    Holdings.ListedStored ⟨w.baseUri, Text.trimHeader o.settings.userAgent⟩ w.accessToken
        o.settings.verificationState link j k w.credentials ∧
      ∀ (s : Service) (operations : List Operation) (v : Wallet) (i : Journal),
        s.run link operations (w, k) = (v, i) →
          (∀ c ∈ v.credentials, c.state = .stored) ∧
          ∀ (order : List Holdings.Part) (outcome : Outcome) (u : Wallet) (l : Journal),
            s.perform (.reload order) link v i = (.ok outcome, u, l) →
              Holdings.ListedStored s.gateway v.accessToken s.verificationState link i l
                u.credentials := by
  have hopened := Opener.listedStored_of_initiate h
  refine ⟨hopened, fun s operations v i hrun => ⟨?_, fun order outcome u l hreload => ?_⟩⟩
  · have hstored := s.run_storedOnly link hopened.state_eq operations k
    rwa [hrun] at hstored
  · obtain ⟨holdings, hfetched, rfl⟩ := perform_reload_eq_ok hreload
    exact hfetched.credentials

end CredentialWallet

namespace CredentialWallet.Sample

def login : Login where
  descriptor := String.join
    (braced ["\"serviceBaseUrl\":\"http://[::1]\",\"tokenUrl\":\"t\",\"clientId\":\"c\""])
  username := "holder"
  password := "secret"

/-- Opens wallets with a token that is always granted. -/
def opener : Opener := ⟨⟨30, "client", .passed⟩, .own fun _ => .ok (.bearer "access")⟩

def connection (id : String) : Connection := ⟨id, .connected, .invitee, .unknown, .unknown⟩

/-- The text of such a connection, in pieces. -/
def connectionText (id : String) : List String :=
  braced (["\"id\":\"", id, "\",\"state\":\"connected\",", "\"role\":\"invitee\",", "\"local\":"] ++
    braced [] ++ [",\"remote\":"] ++ braced [])

def credential (id : String) (state : CredentialState) : Credential :=
  .jsonLd ⟨id, .holder, state, "did", .object [], connection "k", []⟩

/-- The text of such a credential, in pieces. -/
def credentialText (id state : String) : List String :=
  braced (["\"format\":\"jsonld\",", "\"role\":\"holder\",", "\"id\":\"", id, "\",\"state\":\"", state,
    "\",", "\"issuer_did\":\"did\",", "\"cred_json\":"] ++ braced [] ++ [",\"properties\":"] ++
    braced [] ++ [",\"connection\":"] ++ connectionText "k")

/-- An agency that lists two credentials, of which one is stored, and nothing else. -/
def listing : Agency :=
  let nothing := answering (braced ["\"items\":[]"])
  turns [answering (braced ["\"id\":\"a\",", "\"name\":\"holder\",", "\"url\":\"\""]), nothing,
    nothing, answering (braced (["\"items\":["] ++ credentialText "1" "accepted" ++ [","] ++
      credentialText "2" "stored" ++ ["]"])), nothing]

def opened : Wallet where
  agent := wallet.agent
  connections := []
  invitations := []
  credentials := [credential "2" .stored]
  verifications := []
  refreshUri := "t"
  baseUri := baseUrl
  clientId := "c"
  clientSecret := none
  token := .bearer "access"

end CredentialWallet.Sample

namespace CredentialWallet.Service

open Sample

/-- A wallet is opened and reloaded, and of the two credentials that are listed both times one is kept. -/
theorem run_storedOnly_of_initiate_listing :
    ∃ k u l, opener.initiate login [] (.up listing) [] = (.ok opened, k) ∧
      service.perform (.reload []) (.up listing) opened k = (.ok .done, u, l) ∧
      Holdings.ListedStored service.gateway opened.accessToken service.verificationState
        (.up listing) k l u.credentials := by
  have h : (opener.initiate login [] (.up listing) []).1 = .ok opened ∧
      (service.perform (.reload []) (.up listing) opened
        (opener.initiate login [] (.up listing) []).2).1 = .ok .done := by decide +kernel
  rcases hopened : opener.initiate login [] (.up listing) [] with ⟨r, k⟩
  rcases hreloaded : service.perform (.reload []) (.up listing) opened k with ⟨outcome, u, l⟩
  rw [hopened, hreloaded] at h
  obtain ⟨rfl, rfl⟩ := h
  have hruns := (run_storedOnly_of_initiate hopened).2 service [] opened k rfl
  exact ⟨k, u, l, rfl, hreloaded, hruns.2 [] .done u l hreloaded⟩

end CredentialWallet.Service
