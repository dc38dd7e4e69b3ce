import CredentialWallet.Opening
import CredentialWallet.Proofs.Inquiry
import CredentialWallet.Proofs.Requests
/-!
# What a fetch brings

Holdings that were fetched are what the agency answered, part for part: nothing is added and, but for
the credentials that are not stored, nothing is left out. The order in which the answers arrive decides
only which failure is told.
-/

namespace CredentialWallet

open Http (Answer)

namespace Holdings

section

variable (g : Gateway) (token : String) (state : VerificationState) (link : Link)

/-- Between two journals a part was asked for, and this was the answer. -/
def Answered (j k : Journal) (part : Part) (a : Answer) : Prop :=
  ∃ before r, j <+: before ∧ before ++ [.request r] <+: k ∧
    (g.listing token state part).event? = some (.request r) ∧
    link.answer? (before ++ [.request r]) = some a

/-- Between two journals a part was asked for, and the answer listed these records. -/
def Listed {τ : Type} [Record.Codec τ] (j k : Journal) (part : Part) (records : List τ) : Prop :=
  ∃ (a : Answer) (listing : Listing τ),
    Answered g token state link j k part a ∧ a.Holds listing ∧ listing.items = records

/-- Between two journals credentials were listed, and these are the stored ones, in the same order. -/
def ListedStored (j k : Journal) (stored : List Credential) : Prop :=
  ∃ listed, Listed g token state link j k .credentials listed ∧
    stored = listed.filter Credential.isStored

/-- Holdings are what the agency answered between two journals. -/
structure IsFetched (j k : Journal) (h : Holdings) : Prop where
  agent : ∃ a, Answered g token state link j k .agent a ∧ a.Holds h.agent
  connections : Listed g token state link j k .connections h.connections
  invitations : Listed g token state link j k .invitations h.invitations
  credentials : ListedStored g token state link j k h.credentials
  verifications : Listed g token state link j k .verifications h.verifications

end

/-! ### Answers -/

theorem contentOf_eq_ok {α : Type} [Record.Codec α] {x : Except Http.Transport Answer} {value : α}
    (h : contentOf x = .ok value) : ∃ a, x = .ok a ∧ a.Holds value := by
  rw [contentOf] at h
  obtain ⟨a, ha, hread⟩ := bind_eq_ok_iff.1 h
  obtain ⟨reply, hreply, hcontent⟩ := bind_eq_ok_iff.1 hread
  obtain rfl := Gateway.intoContent_eq_ok hcontent
  exact ⟨a, mapError_eq_ok_iff.1 ha, Gateway.interpret_eq_content_iff.1 hreply⟩

theorem itemsOf_eq_ok {τ : Type} [Record.Codec τ] {x : Except Http.Transport Answer} {items : List τ}
    (h : itemsOf x = .ok items) :
    ∃ a, x = .ok a ∧ ∃ listing : Listing τ, a.Holds listing ∧ listing.items = items := by
  rw [itemsOf] at h
  obtain ⟨listing, hcontent, hitems⟩ := bind_eq_ok_iff.1 h
  obtain ⟨a, hx, hholds⟩ := contentOf_eq_ok hcontent
  exact ⟨a, hx, listing, hholds, Except.ok.inj hitems⟩

theorem Fetched.holdings_eq_ok {f : Fetched} {h : Holdings} (hf : f.holdings = .ok h) :
    f.agent = .ok h.agent ∧ f.connections = .ok h.connections ∧
      f.invitations = .ok h.invitations ∧ f.credentials = .ok h.credentials ∧
      f.verifications = .ok h.verifications := by
  rw [holdings] at hf
  obtain ⟨agent, hagent, hf⟩ := bind_eq_ok_iff.1 hf
  obtain ⟨connections, hconnections, hf⟩ := bind_eq_ok_iff.1 hf
  obtain ⟨invitations, hinvitations, hf⟩ := bind_eq_ok_iff.1 hf
  obtain ⟨credentials, hcredentials, hf⟩ := bind_eq_ok_iff.1 hf
  obtain ⟨verifications, hverifications, hf⟩ := bind_eq_ok_iff.1 hf
  cases hf
  exact ⟨mapError_eq_ok_iff.1 hagent, mapError_eq_ok_iff.1 hconnections,
    mapError_eq_ok_iff.1 hinvitations, mapError_eq_ok_iff.1 hcredentials,
    mapError_eq_ok_iff.1 hverifications⟩

theorem Fetched.arriving_eq_ok {f : Fetched} {order : List Part} {h : Holdings}
    (hf : f.arriving order = .ok h) : f.holdings = .ok h := by
  rw [arriving] at hf
  split at hf
  · cases hf
  · exact hf

/-! ### Fetches -/

variable {g : Gateway} {token : String} {state : VerificationState} {link : Link}

theorem Answered.mono {i j k l : Journal} {part : Part} {a : Answer}
    (h : Answered g token state link j k part a) (hij : i <+: j) (hkl : k <+: l) :
    Answered g token state link i l part a := by
  obtain ⟨before, r, hbefore, hafter, hevent, hanswer⟩ := h
  exact ⟨before, r, hij.trans hbefore, hafter.trans hkl, hevent, hanswer⟩

theorem ask_eq_ok {part : Part} {j k : Journal} {x : Except Http.Transport Answer}
    (h : ask g token state part link j = (.ok x, k)) :
    j <+: k ∧ ∀ a, x = .ok a → Answered g token state link j k part a := by
  rcases ask_performs g token state part link j with ⟨e, herror⟩ | ⟨event, r, hevent, hr, hbrings⟩
  · rw [herror] at h
    cases h
  · rw [hr] at h
    cases h
    refine ⟨List.prefix_append j [event], ?_⟩
    rintro a rfl
    obtain ⟨request, _, rfl⟩ := Option.map_eq_some_iff.1 hevent
    exact ⟨j, request, List.prefix_rfl, List.prefix_rfl, hevent, hbrings _ rfl a rfl⟩

theorem ListedStored.mono {i j k l : Journal} {stored : List Credential}
    (h : ListedStored g token state link j k stored) (hij : i <+: j) (hkl : k <+: l) :
    ListedStored g token state link i l stored := by
  obtain ⟨listed, ⟨a, listing, hanswered, hlisting⟩, hstored⟩ := h
  exact ⟨listed, ⟨a, listing, hanswered.mono hij hkl, hlisting⟩, hstored⟩

theorem listed_of_itemsOf {τ : Type} [Record.Codec τ] {part : Part} {j k : Journal}
    {x : Except Http.Transport Answer} {records : List τ} (hitems : itemsOf x = .ok records)
    (hanswered : ∀ a, x = .ok a → Answered g token state link j k part a) :
    Listed g token state link j k part records := by
  obtain ⟨a, hx, listing, hholds, hrecords⟩ := itemsOf_eq_ok hitems
  exact ⟨a, listing, hanswered a hx, hholds, hrecords⟩

/-- Holdings are fetched only as the agency lists them. -/
theorem fetch_eq_ok {order : List Part} {j k : Journal} {h : Holdings}
    (hfetch : fetch g token state order link j = (.ok h, k)) :
    IsFetched g token state link j k h := by
  rw [fetch] at hfetch
  obtain ⟨agent, j₁, hask₁, hfetch⟩ := Talk.bind_eq_ok hfetch
  obtain ⟨connections, j₂, hask₂, hfetch⟩ := Talk.bind_eq_ok hfetch
  obtain ⟨invitations, j₃, hask₃, hfetch⟩ := Talk.bind_eq_ok hfetch
  obtain ⟨credentials, j₄, hask₄, hfetch⟩ := Talk.bind_eq_ok hfetch
  obtain ⟨verifications, j₅, hask₅, hfetch⟩ := Talk.bind_eq_ok hfetch
  obtain ⟨harrived, rfl⟩ := Talk.ofExcept_eq_ok hfetch
  obtain ⟨hagent, hconnections, hinvitations, hcredentials, hverifications⟩ :=
    Fetched.holdings_eq_ok (Fetched.arriving_eq_ok harrived)
  obtain ⟨h₁, hanswered₁⟩ := ask_eq_ok hask₁
  obtain ⟨h₂, hanswered₂⟩ := ask_eq_ok hask₂
  obtain ⟨h₃, hanswered₃⟩ := ask_eq_ok hask₃
  obtain ⟨h₄, hanswered₄⟩ := ask_eq_ok hask₄
  obtain ⟨h₅, hanswered₅⟩ := ask_eq_ok hask₅
  have hbefore₃ := h₁.trans h₂
  have hbefore₄ := hbefore₃.trans h₃
  have hbefore₅ := hbefore₄.trans h₄
  have hafter₃ := h₄.trans h₅
  have hafter₂ := h₃.trans hafter₃
  have hafter₁ := h₂.trans hafter₂
  refine ⟨?_, ?_, ?_, ?_, ?_⟩
  · obtain ⟨a, ha, hholds⟩ := contentOf_eq_ok hagent
    exact ⟨a, (hanswered₁ a ha).mono List.prefix_rfl hafter₁, hholds⟩
  · exact listed_of_itemsOf hconnections fun a ha => (hanswered₂ a ha).mono h₁ hafter₂
  · exact listed_of_itemsOf hinvitations fun a ha => (hanswered₃ a ha).mono hbefore₃ hafter₃
  · obtain ⟨listed, hlisted, hstored⟩ := map_eq_ok_iff.1 hcredentials
    have hcredentialsListed : Listed g token state link j k .credentials listed :=
      listed_of_itemsOf hlisted fun a ha => (hanswered₄ a ha).mono hbefore₄ h₅
    exact ⟨listed, hcredentialsListed, hstored.symm⟩
  · exact listed_of_itemsOf hverifications fun a ha =>
      (hanswered₅ a ha).mono hbefore₅ List.prefix_rfl

end Holdings

/-! ### Reloads -/

namespace Service

theorem finding_eq_ok {ε α : Type} {wrong : ε → Mishap} {right : α → Finding} {x : Talk ε α}
    {link : Link} {j k : Journal} {found : Finding}
    (h : finding wrong right x link j = (.ok found, k)) :
    ∃ a, x link j = (.ok a, k) ∧ right a = found := by
  rcases hx : x link j with ⟨e | a, i⟩
  · rw [finding_of_error hx] at h
    cases h
  · rw [finding_of_ok hx] at h
    cases h
    exact ⟨a, rfl, rfl⟩

variable {s : Service} {link : Link} {w : Wallet} {j k : Journal}

/-- Only a reload finds holdings. -/
theorem isFetched_of_inquire {operation : Operation} {h : Holdings}
    (hfound : s.inquire w operation link j = (.ok (.holdings h), k)) :
    h.IsFetched s.gateway w.accessToken s.verificationState link j k := by
  cases operation with
  | reload order =>
    obtain ⟨found, hfetch, hholdings⟩ := finding_eq_ok hfound
    obtain rfl := Finding.holdings.inj hholdings
    exact Holdings.fetch_eq_ok hfetch
  | _ =>
    obtain ⟨_, _, hother⟩ := finding_eq_ok hfound
    cases hother

theorem perform_reload_eq_ok {order : List Holdings.Part} {outcome : Outcome} {u : Wallet}
    (h : s.perform (.reload order) link w j = (.ok outcome, u, k)) :
    ∃ holdings : Holdings,
      holdings.IsFetched s.gateway w.accessToken s.verificationState link j k ∧
        u = w.recordHoldings holdings := by
  rcases hasked : s.inquire w (.reload order) link j with ⟨e | found, i⟩
  · rw [perform_of_error hasked] at h
    cases h
  · rw [perform_of_ok hasked] at h
    obtain ⟨holdings, _, rfl⟩ := finding_eq_ok hasked
    cases h
    exact ⟨holdings, isFetched_of_inquire hasked, rfl⟩

end Service

/-! ### Openings -/

theorem Talk.mapError_eq_ok {ε ε' α : Type} {x : Talk ε α} {f : ε → ε'} {link : Link} {j k : Journal}
    {a : α} (h : x.mapError f link j = (.ok a, k)) : x link j = (.ok a, k) := by
  rw [mapError] at h
  obtain ⟨hresult, rfl⟩ := Prod.mk.inj h
  exact Prod.ext (mapError_eq_ok_iff.1 hresult) rfl

theorem Opener.initiate_eq_ok {o : Opener} {login : Login} {order : List Holdings.Part} {link : Link}
    {j k : Journal} {w : Wallet} (h : o.initiate login order link j = (.ok w, k)) :
    ∃ d g token i holdings, Descriptor.ofText login.descriptor = .ok d ∧
      Gateway.new d.baseUrl o.settings = .ok g ∧
      o.provider.ask d.client (.password login.username login.password) link j = (.ok token, i) ∧
      Holdings.fetch g token.access o.settings.verificationState order link i = (.ok holdings, k) ∧
      w = ⟨holdings, d.client.tokenUrl, g.baseUrl, d.client.id, d.client.secret, token⟩ := by
  rw [initiate] at h
  obtain ⟨d, _, hdescriptor, hread⟩ := Talk.bind_eq_ok h
  obtain ⟨g, _, hgateway, hready⟩ := Talk.bind_eq_ok hread
  obtain ⟨token, i, htoken, hsigned⟩ := Talk.bind_eq_ok hready
  obtain ⟨holdings, _, hfetch, hfilled⟩ := Talk.bind_eq_ok hsigned
  obtain ⟨hd, rfl⟩ := Talk.ofExcept_eq_ok hdescriptor
  obtain ⟨hg, rfl⟩ := Talk.ofExcept_eq_ok hgateway
  cases hfilled
  exact ⟨d, g, token, i, holdings, mapError_eq_ok_iff.1 hd, mapError_eq_ok_iff.1 hg,
    Talk.mapError_eq_ok htoken, hfetch, rfl⟩

end CredentialWallet
