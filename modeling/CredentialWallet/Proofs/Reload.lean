import Mathlib.Data.List.DropRight
import CredentialWallet.Proofs.Address
import CredentialWallet.Proofs.Arrival
/-!
# Reloads do what openings did

An opening knows the agency from a descriptor and its own settings, a reload from the wallet and the
service. Both normalize the base URL, and more than once; a normalized one stays as it is. So behind an
agency that answers every request in view of nothing but that request, a reload asks for what the
opening asked for, and finds what it found.
-/

namespace CredentialWallet

open Http (Answer Request)

/-! ### Slashes behind a base URL -/

namespace Text

def slashes (n : Nat) : String := String.ofList (List.replicate n '/')

theorem dropTrailingSlashes_idem (s : String) :
    dropTrailingSlashes (dropTrailingSlashes s) = dropTrailingSlashes s := by
  simp only [dropTrailingSlashes, String.toList_ofList]
  exact congrArg String.ofList (List.rdropWhile_idempotent _ _)

theorem dropTrailingSlashes_append (s : String) (n : Nat) :
    dropTrailingSlashes (s ++ slashes n) = dropTrailingSlashes s := by
  have hslashes : ∀ c ∈ List.replicate n '/', (c == '/') = true := fun c hc => by
    rw [(List.mem_replicate.1 hc).2, beq_self_eq_true]
  simp only [dropTrailingSlashes, slashes, trimEnd, String.toList_append, String.toList_ofList,
    List.reverse_append, List.reverse_replicate, List.dropWhile_append_of_pos hslashes]

end Text

namespace Descriptor

def slashed (d : Descriptor) (base : String) (n : Nat) : Descriptor :=
  { d with serviceBaseUrl := base ++ Text.slashes n }

@[simp] theorem baseUrl_slashed (d : Descriptor) (base : String) (n : Nat) :
    (d.slashed base n).baseUrl = Text.dropTrailingSlashes base :=
  Text.dropTrailingSlashes_append base n

theorem ofText_eq_ok_iff {raw : String} {d : Descriptor} :
    ofText raw = .ok d ↔
      Record.ofText raw = .ok d ∧ Text.allBlank d.serviceBaseUrl = false ∧
        Text.allBlank d.tokenUrl = false ∧ Text.allBlank d.clientId = false := by
  rw [ofText, bind_eq_ok_iff]
  simp only [mapError_eq_ok_iff]
  constructor
  · rintro ⟨found, hread, h⟩
    split at h
    · cases h
    · rename_i hnone
      cases h
      refine ⟨hread, ?_⟩
      simpa [requiredValues] using hnone
  · rintro ⟨hread, hbase, htoken, hclient⟩
    refine ⟨d, hread, ?_⟩
    simp [requiredValues, hbase, htoken, hclient]

end Descriptor

/-! ### What was fetched -/

namespace Holdings

variable {g : Gateway} {token : String} {state : VerificationState} {link : Link} {j k : Journal}

theorem prepared_of_ask {part : Part} {x : Except Http.Transport Answer}
    (h : ask g token state part link j = (.ok x, k)) :
    ∃ r, Gateway.prepare g.userAgent .get (part.address g state) (some token) none = .ok r := by
  rcases hr : Gateway.prepare g.userAgent .get (part.address g state) (some token) none with e | r
  · rw [ask, hr] at h
    cases h
  · exact ⟨r, rfl⟩

theorem prepared_of_fetch {order : List Part} {h : Holdings}
    (hfetch : fetch g token state order link j = (.ok h, k)) :
    ∃ requests : Part → Request, ∀ part,
      Gateway.prepare g.userAgent .get (part.address g state) (some token) none =
        .ok (requests part) := by
  rw [fetch] at hfetch
  obtain ⟨_, _, hagent, hfetch⟩ := Talk.bind_eq_ok hfetch
  obtain ⟨_, _, hconnections, hfetch⟩ := Talk.bind_eq_ok hfetch
  obtain ⟨_, _, hinvitations, hfetch⟩ := Talk.bind_eq_ok hfetch
  obtain ⟨_, _, hcredentials, hfetch⟩ := Talk.bind_eq_ok hfetch
  obtain ⟨_, _, hverifications, hfetch⟩ := Talk.bind_eq_ok hfetch
  have hall (part : Part) : ∃ r,
      Gateway.prepare g.userAgent .get (part.address g state) (some token) none = .ok r := by
    cases part with
    | agent => exact prepared_of_ask hagent
    | connections => exact prepared_of_ask hconnections
    | invitations => exact prepared_of_ask hinvitations
    | credentials => exact prepared_of_ask hcredentials
    | verifications => exact prepared_of_ask hverifications
  exact Classical.axiomOfChoice hall

end Holdings

/-! ### What an opening went through -/

namespace Opener

variable {o : Opener} {login : Login} {order : List Holdings.Part} {link : Link} {j k : Journal}
  {w : Wallet}

theorem exists_signsIn_of_initiate (h : o.initiate login order link j = (.ok w, k)) :
    ∃ d g token i holdings, o.SignsIn login link j i d g token ∧
      Holdings.fetch g token.access o.settings.verificationState order link i = (.ok holdings, k) ∧
      w = filled d g token holdings := by
  obtain ⟨d, g, token, i, holdings, hd, hg, htoken, hfetch, rfl⟩ := initiate_eq_ok h
  exact ⟨d, g, token, i, holdings, ⟨hd, hg, htoken⟩, hfetch, rfl⟩

theorem SignsIn.service_of_filled {i : Journal} {d : Descriptor} {g : Gateway} {token : Token}
    (h : o.SignsIn login link i j d g token) (holdings : Holdings) :
    Service.new (filled d g token holdings) o.settings o.provider =
      .ok ⟨g, o.provider, o.settings.verificationState⟩ := by
  have hgateway := h.gateway
  rw [Gateway.new] at hgateway
  split at hgateway
  · rename_i hsendable
    obtain rfl := Except.ok.inj hgateway
    simp only [Service.new, Gateway.new, filled, hsendable, if_true, Text.dropTrailingSlashes_idem]
    rfl
  · cases hgateway

end Opener

/-! ### Reloads behind an agency without memory -/

namespace Service

/-- However often a wallet is reloaded, the same requests are sent and nothing changes. -/
structure Repeats (s : Service) (agency : Agency) (w : Wallet)
    (requests : Holdings.Part → Request) : Prop where
  prepared (part : Holdings.Part) :
    Gateway.prepare s.gateway.userAgent .get (part.address s.gateway s.verificationState)
      (some w.accessToken) none = .ok (requests part)
  reload (order : List Holdings.Part) (j : Journal) :
    s.perform (.reload order) (.up agency) w j =
      (.ok .done, w, j ++ Holdings.asking requests Holdings.Part.all)
  reloads (orders : List (List Holdings.Part)) (j : Journal) :
    s.run (.up agency) (orders.map .reload) (w, j) =
      (w, j ++ orders.flatMap fun _ => Holdings.asking requests Holdings.Part.all)

variable {s : Service} {agency : Agency} {w : Wallet} {requests : Holdings.Part → Request}

theorem run_reloads (h : ∀ order j, s.perform (.reload order) (.up agency) w j =
      (.ok .done, w, j ++ Holdings.asking requests Holdings.Part.all))
    (orders : List (List Holdings.Part)) (j : Journal) :
    s.run (.up agency) (orders.map .reload) (w, j) =
      (w, j ++ orders.flatMap fun _ => Holdings.asking requests Holdings.Part.all) := by
  induction orders generalizing j with
  | nil => simp [run]
  | cons order rest ih =>
    rw [List.map_cons, run_cons, h, ih, List.flatMap_cons, List.append_assoc]

theorem repeats_of_fetch {answer : Request → Option Answer} {order : List Holdings.Part}
    {i k : Journal} {holdings : Holdings}
    (hfetch : Holdings.fetch s.gateway w.accessToken s.verificationState order
      (.up (.forgetful answer)) i = (.ok holdings, k)) (hw : w.recordHoldings holdings = w) :
    ∃ requests, k = i ++ Holdings.asking requests Holdings.Part.all ∧
      s.Repeats (.forgetful answer) w requests := by
  obtain ⟨requests, hprepared⟩ := Holdings.prepared_of_fetch hfetch
  have hagain (order : List Holdings.Part) (j : Journal) :=
    Holdings.fetch_of_prepared (.forgetful answer) j order hprepared
  rw [hagain, Prod.mk.injEq] at hfetch
  obtain ⟨harrived, rfl⟩ := hfetch
  have hholdings := Holdings.Fetched.arriving_eq_ok harrived
  have hreload (order : List Holdings.Part) (j : Journal) :
      s.perform (.reload order) (.up (.forgetful answer)) w j =
        (.ok .done, w, j ++ Holdings.asking requests Holdings.Part.all) := by
    have hfound : Holdings.fetch s.gateway w.accessToken s.verificationState order
        (.up (.forgetful answer)) j =
          (.ok holdings, j ++ Holdings.asking requests Holdings.Part.all) := by
      rw [hagain, Holdings.Answers.of_forgetful, ← Holdings.Answers.of_forgetful answer requests i,
        Holdings.Fetched.arriving_of_holdings hholdings]
    rw [perform_reload_of_ok hfound, hw]
  exact ⟨requests, rfl, hprepared, hreload, run_reloads hreload⟩

end Service

/-! ### Slashes behind the base URL of a descriptor -/

namespace Opener

/-- An opening takes no more of a descriptor than where the agency is and as whom to sign in. -/
theorem initiate_congr {o : Opener} {login login' : Login} {d d' : Descriptor}
    (hd : Descriptor.ofText login.descriptor = .ok d)
    (hd' : Descriptor.ofText login'.descriptor = .ok d') (hbase : d.baseUrl = d'.baseUrl)
    (hclient : d.client = d'.client) (huser : login.username = login'.username)
    (hpassword : login.password = login'.password) : o.initiate login = o.initiate login' := by
  funext order
  rw [initiate, initiate, hd, hd', huser, hpassword]
  change (Talk.ofExcept ((Gateway.new d.baseUrl _).mapError _) >>= fun g => _) =
    (Talk.ofExcept ((Gateway.new d'.baseUrl _).mapError _) >>= fun g => _)
  rw [hbase, hclient]

variable {o : Opener} {login : Login} {order : List Holdings.Part} {link : Link} {j k : Journal}
  {w : Wallet}

theorem colon_mem_of_initiate (h : o.initiate login order link j = (.ok w, k)) {d : Descriptor}
    (hd : Descriptor.ofText login.descriptor = .ok d) : ':' ∈ d.baseUrl.toList := by
  obtain ⟨d', g, token, i, holdings, hsigned, hfetch, -⟩ := exists_signsIn_of_initiate h
  obtain rfl : d' = d := Except.ok.inj (hsigned.descriptor.symm.trans hd)
  obtain ⟨requests, hprepared⟩ := Holdings.prepared_of_fetch hfetch
  obtain ⟨u, hparse, -⟩ := Gateway.prepare_eq_ok (hprepared .connections)
  have hname : Url.IsName "connections".toList := Gateway.isName_of_mem_collections (by decide)
  have hcolon : ':' ∈ g.baseUrl.toList := Gateway.colon_mem_of_parse hname hparse
  rwa [Gateway.new_eq_ok hsigned.gateway, Descriptor.baseUrl, Text.dropTrailingSlashes_idem] at hcolon

/-- A descriptor that a wallet was opened with is accepted with any number of slashes. -/
theorem ofText_slashed_of_initiate (h : o.initiate login order link j = (.ok w, k)) {d : Descriptor}
    {base raw : String} {m n : Nat}
    (hread : Record.ofText login.descriptor = .ok (d.slashed base m))
    (hraw : Record.ofText raw = .ok (d.slashed base n)) :
    Descriptor.ofText raw = .ok (d.slashed base n) := by
  obtain ⟨found, _, _, _, _, hsigned, _⟩ := exists_signsIn_of_initiate h
  obtain ⟨hfound, -, htoken, hclient⟩ := Descriptor.ofText_eq_ok_iff.1 hsigned.descriptor
  obtain rfl : d.slashed base m = found := Except.ok.inj (hread.symm.trans hfound)
  have hcolon := colon_mem_of_initiate h hsigned.descriptor
  rw [Descriptor.baseUrl_slashed] at hcolon
  have hbase : ':' ∈ (d.slashed base n).serviceBaseUrl.toList := by
    rw [Text.dropTrailingSlashes, String.toList_ofList] at hcolon
    rw [Descriptor.slashed, String.toList_append]
    exact List.mem_append_left _ ((List.rdropWhile_prefix _ _).subset hcolon)
  refine Descriptor.ofText_eq_ok_iff.2 ⟨hraw, ?_, htoken, hclient⟩
  exact List.all_eq_false.2 ⟨':', hbase, by decide⟩

end Opener

/-! ### Agreement -/

namespace Service

/-- Where an opening succeeds, reloads of the service of its wallet send the same five requests as the
opening did once it had a token, and leave the wallet as it is, in whatever order the answers arrive and
however often. How many slashes stand behind the base URL of the descriptor makes no difference to the
wallet or to what was sent for it, nor to any other opening, unless one of the two descriptors is blank
there. -/
theorem reload_agrees_with_initiate (o : Opener) :
    (∀ (login : Login) (order : List Holdings.Part) (answer : Request → Option Answer) (j k : Journal)
      (w : Wallet), o.initiate login order (.up (.forgetful answer)) j = (.ok w, k) →
        ∃ (s : Service) (d : Descriptor) (i : Journal) (requests : Holdings.Part → Request),
          Service.new w o.settings o.provider = .ok s ∧
            Descriptor.ofText login.descriptor = .ok d ∧
            o.provider.ask d.client (.password login.username login.password)
              (.up (.forgetful answer)) j = (.ok w.token, i) ∧
            k = i ++ Holdings.asking requests Holdings.Part.all ∧
            s.Repeats (.forgetful answer) w requests) ∧
      ∀ (username password raw raw' base : String) (m n : Nat) (d : Descriptor),
        Record.ofText raw = .ok (d.slashed base m) → Record.ofText raw' = .ok (d.slashed base n) →
          (∀ order link j w k, o.initiate ⟨raw, username, password⟩ order link j = (.ok w, k) ↔
            o.initiate ⟨raw', username, password⟩ order link j = (.ok w, k)) ∧
          ((∃ a, Descriptor.ofText raw = .ok a) → (∃ b, Descriptor.ofText raw' = .ok b) →
            o.initiate ⟨raw, username, password⟩ = o.initiate ⟨raw', username, password⟩) := by
  refine ⟨fun login order answer j k w h => ?_, fun username password raw raw' base m n d hd hd' => ?_⟩
  · obtain ⟨d, g, token, i, holdings, hsigned, hfetch, rfl⟩ := Opener.exists_signsIn_of_initiate h
    obtain ⟨requests, rfl, hrepeats⟩ := repeats_of_fetch (s := ⟨g, o.provider, _⟩)
      (w := Opener.filled d g token holdings) hfetch rfl
    exact ⟨_, d, i, requests, hsigned.service_of_filled holdings, hsigned.descriptor, hsigned.granted,
      rfl, hrepeats⟩
  · have hsame (hraw : Descriptor.ofText raw = .ok (d.slashed base m))
        (hraw' : Descriptor.ofText raw' = .ok (d.slashed base n)) :
        o.initiate ⟨raw, username, password⟩ = o.initiate ⟨raw', username, password⟩ :=
      Opener.initiate_congr hraw hraw' (by simp) rfl rfl rfl
    refine ⟨fun order link j w k => ⟨fun h => ?_, fun h => ?_⟩, ?_⟩
    · have hraw' := Opener.ofText_slashed_of_initiate h hd hd'
      have hraw := Opener.ofText_slashed_of_initiate h hd hd
      rwa [← hsame hraw hraw']
    · have hraw' := Opener.ofText_slashed_of_initiate h hd' hd'
      have hraw := Opener.ofText_slashed_of_initiate h hd' hd
      rwa [hsame hraw hraw']
    · rintro ⟨a, ha⟩ ⟨b, hb⟩
      obtain rfl : d.slashed base m = a :=
        Except.ok.inj (hd.symm.trans (Descriptor.ofText_eq_ok_iff.1 ha).1)
      obtain rfl : d.slashed base n = b :=
        Except.ok.inj (hd'.symm.trans (Descriptor.ofText_eq_ok_iff.1 hb).1)
      exact hsame ha hb

end Service

end CredentialWallet

namespace CredentialWallet.Sample

/-- The login with two slashes behind the base URL of its descriptor. -/
def slashedLogin : Login := { login with
  descriptor := String.join
    (braced ["\"serviceBaseUrl\":\"http://[::1]//\",\"tokenUrl\":\"t\",\"clientId\":\"c\""]) }

end CredentialWallet.Sample

namespace CredentialWallet.Service

open Sample

/-- A wallet is opened and reloaded with the records that the agency lists, and opened with slashes
behind the base URL. -/
theorem reload_agrees_with_initiate_stocked :
    ∃ (k : Journal) (s : Service) (requests : Holdings.Part → Http.Request),
      opener.initiate login [] (.up (.forgetful (stocked.reply []))) [] =
          (.ok { opened with toHoldings := stock }, k) ∧
        Service.new { opened with toHoldings := stock } opener.settings opener.provider = .ok s ∧
        s.Repeats (.forgetful (stocked.reply [])) { opened with toHoldings := stock } requests ∧
        opener.initiate slashedLogin [] (.up (.forgetful (stocked.reply []))) [] =
          (.ok { opened with toHoldings := stock }, k) := by
  have hfetch := fetch_stocked [] signedIn
  rw [stocked_eq_forgetful] at hfetch
  have hopened := (signsIn_opener _).initiate hfetch
  obtain ⟨hreload, hslashes⟩ := reload_agrees_with_initiate opener
  obtain ⟨s, _, _, requests, hs, _, _, _, hrepeats⟩ := hreload login [] (stocked.reply []) [] _ _ hopened
  have hread : Record.ofText login.descriptor =
      .ok (Descriptor.slashed ⟨"", "t", "c", none, none⟩ "http://[::1]" 0) := by decide +kernel
  have hslashed : Record.ofText slashedLogin.descriptor =
      .ok (Descriptor.slashed ⟨"", "t", "c", none, none⟩ "http://[::1]" 2) := by decide +kernel
  obtain ⟨hagain, -⟩ := hslashes login.username login.password _ _ _ _ _ _ hread hslashed
  exact ⟨_, s, requests, hopened, hs, hrepeats, (hagain [] _ _ _ _).1 hopened⟩

end CredentialWallet.Service
