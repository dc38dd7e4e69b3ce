import CredentialWallet.Proofs.CommitFirst
import CredentialWallet.Proofs.Rereading
/-!
# Where the requests of a gateway go

Every address that a gateway puts together begins with its base URL and goes on with a path that holds
no colon and no at sign. So one address tells the site of them all, and if the base URL names nobody
then none of them does. An id is put behind such an address segment by segment and cannot leave the site
either. What a gateway sends carries the token it was asked to send and no other credentials.
-/

namespace CredentialWallet

open Http (Method Request)

/-- A text that neither moves an address it is put behind to another site nor names a user there. -/
def Url.IsQuiet (text : String) : Prop := ∀ c ∈ text.toList, 32 < c.toNat ∧ c ≠ ':' ∧ c ≠ '@'

instance (text : String) : Decidable (Url.IsQuiet text) :=
  List.decidableBAll _ text.toList

theorem Url.IsQuiet.append {a b : String} (ha : IsQuiet a) (hb : IsQuiet b) : IsQuiet (a ++ b) := by
  intro c hc
  rw [String.toList_append] at hc
  exact (List.mem_append.1 hc).elim (ha c) (hb c)

theorem Url.IsQuiet.visible_ne_colon {text : String} (h : IsQuiet text) :
    ∀ c ∈ text.toList, 32 < c.toNat ∧ c ≠ ':' := fun c hc => ⟨(h c hc).1, (h c hc).2.1⟩

/-- A request to a site with a token and nobody else's credentials. -/
structure Http.Request.Bears (r : Request) (token : String) (site : Url.Site) : Prop where
  authorization : r.authorization = [Text.trimHeader ("Bearer " ++ token)]
  site : r.url.site? = some site

namespace Gateway

/-- The addresses behind a base URL stand at a site and name nobody. -/
structure LeadsTo (g : Gateway) (site : Url.Site) : Prop where
  isFinal : site.IsFinal
  standsAt (resource : String) (h : Url.IsQuiet resource) :
    ∃ u, Url.parse (g.endpoint resource) = .ok u ∧ u.StandsAt site

theorem LeadsTo.of_baseUrl_eq {g g' : Gateway} {site : Url.Site} (h : g.LeadsTo site)
    (hbase : g'.baseUrl = g.baseUrl) : g'.LeadsTo site := by
  refine ⟨h.isFinal, fun resource hresource => ?_⟩
  rw [endpoint, hbase]
  exact h.standsAt resource hresource

/-! ### Addresses of resources -/

theorem endpoint_append (g : Gateway) (resource more : String) :
    g.endpoint resource ++ more = g.endpoint (resource ++ more) := by
  simp only [endpoint, String.append_assoc]
  rfl

theorem endpoint_toList_eq (g : Gateway) (resource : String) :
    (g.endpoint resource).toList = (g.baseUrl.toList ++ "/diagenc".toList) ++
      'y' :: '/' :: ("v1.0/diagency/" ++ resource).toList := by
  simp [endpoint, apiPath]
  rfl

theorem placeIn?_endpoint (g : Gateway) {resource : String} (h : Url.IsQuiet resource) :
    Url.placeIn? (g.endpoint resource).toList =
      Url.placeIn? (g.baseUrl.toList ++ "/diagenc".toList ++ ['y']) := by
  have hpath : Url.IsQuiet "v1.0/diagency/" := by decide
  rw [endpoint_toList_eq, Url.placeIn?_append_slash (by decide) (by decide) (by decide) (by decide)
    (hpath.append h).visible_ne_colon]

theorem userOf_endpoint (g : Gateway) {resource : String} (h : Url.IsQuiet resource) :
    Url.userOf (g.endpoint resource) = Url.userOf g.baseUrl := by
  have hpath : Url.IsQuiet "/diagency/v1.0/diagency/" := by decide
  have hendpoint : g.endpoint resource = g.baseUrl ++ ("/diagency/v1.0/diagency/" ++ resource) := by
    simp only [endpoint, String.append_assoc]
    rfl
  rw [hendpoint, Url.userOf_append (hpath.append h)]

theorem exists_leadsTo_of_parse {g : Gateway} {resource : String} {u : Url}
    (huser : Url.userOf g.baseUrl = ([], [])) (hquiet : Url.IsQuiet resource)
    (h : Url.parse (g.endpoint resource) = .ok u) (hkind : u.kind = .special) :
    ∃ site, g.LeadsTo site := by
  obtain ⟨⟨user, password, host, port⟩, hauthority, hnamed, hfinal⟩ := Url.exists_site_of_parse h hkind
  rw [g.userOf_endpoint hquiet, huser] at hnamed
  obtain ⟨rfl, rfl⟩ := Prod.mk.inj hnamed
  refine ⟨⟨u.scheme, host, port⟩, hfinal, fun other hother => ?_⟩
  have hsame := (g.placeIn?_endpoint hother).trans (g.placeIn?_endpoint hquiet).symm
  obtain ⟨v, path, hv, hscheme, hsite, hroute⟩ := Url.exists_parse_of_same_place h hkind hsame
  exact ⟨v, hv, hscheme, hsite.trans hauthority, path, hroute⟩

/-! ### Requests -/

/-- What can be asked for behind a base URL: a resource, or the item with an id in a collection. -/
inductive IsAddress (g : Gateway) : Except Failure String → Prop
  | endpoint {resource : String} (h : Url.IsQuiet resource) : IsAddress g (.ok (g.endpoint resource))
  | item {collection : String} (h : Url.IsQuiet collection) (id : String) :
    IsAddress g (g.itemEndpoint collection id)

theorem LeadsTo.standsAt_of_address {g : Gateway} {site : Url.Site} (hg : g.LeadsTo site)
    {address : Except Failure String} (h : g.IsAddress address) {text : String} (htext : address = .ok text)
    {u : Url} (hparse : Url.parse text = .ok u) : u.StandsAt site := by
  cases h with
  | endpoint h =>
    obtain ⟨v, hv, hstands⟩ := hg.standsAt _ h
    obtain rfl := Except.ok.inj htext
    obtain rfl := Except.ok.inj (hv.symm.trans hparse)
    exact hstands
  | item h id =>
    obtain ⟨v, hv, hstands⟩ := hg.standsAt _ h
    obtain ⟨item, hitem, hitems⟩ := hstands.push? id
    rw [itemEndpoint, hv] at htext
    simp only [hitem] at htext
    obtain rfl := Except.ok.inj htext
    exact hitems.of_parse_text hg.isFinal hparse

theorem splitCredentials_of_standsAt {u : Url} {site : Url.Site} (h : u.StandsAt site) :
    splitCredentials u = (u, none) := by
  rw [splitCredentials, h.authority]
  rfl

theorem LeadsTo.bears_of_request? {g : Gateway} {site : Url.Site} (hg : g.LeadsTo site) {method : Method}
    {address : Except Failure String} (h : g.IsAddress address) {token : String} {body : Option Json}
    {r : Request} (hr : g.request? method address token body = some r) : r.Bears token site := by
  obtain ⟨text, htext, hprepared⟩ := request?_eq_some hr
  obtain ⟨u, hparse, rfl⟩ := prepare_eq_ok hprepared
  have hstands := hg.standsAt_of_address h htext hparse
  constructor
  · simp [splitCredentials_of_standsAt hstands]
  · simp only [splitCredentials_of_standsAt hstands]
    exact hstands.site?_eq

end Gateway

/-! ### Operations -/

/-- A request to a site with a token. -/
def Event.Bears (event : Event) (token : String) (site : Url.Site) : Prop :=
  ∃ r, event = .request r ∧ r.Bears token site

/-- All that comes of a stage is a request to a site with a token. -/
def Stage.Bears (stage : Stage) (token : String) (site : Url.Site) : Prop :=
  ∀ event, stage.event? = some event → event.Bears token site

theorem Follows.bears {link : Link} {plan : List Stage} {j sent : Journal} {token : String}
    {site : Url.Site} (h : Follows link plan j sent)
    (hplan : ∀ stage ∈ plan, stage.Bears token site) : ∀ event ∈ sent, event.Bears token site := by
  intro event hevent
  obtain ⟨stage, hstage, hasked⟩ := h.exists_stage hevent
  exact hplan stage hstage event hasked

theorem Gateway.LeadsTo.stage_bears {g : Gateway} {site : Url.Site} (hg : g.LeadsTo site) (token : String)
    {method : Method} {address : Except Failure String} (h : g.IsAddress address) (body : Option Json)
    (leadsOn : Option Http.Answer → Prop) :
    Stage.Bears ⟨(g.request? method address token body).map .request, leadsOn⟩ token site := by
  intro event hevent
  obtain ⟨r, hr, rfl⟩ := Option.map_eq_some_iff.1 hevent
  exact ⟨r, rfl, hg.bears_of_request? h hr⟩

theorem Holdings.Part.isAddress (g : Gateway) (state : VerificationState) (part : Part) :
    g.IsAddress (.ok (part.address g state)) := by
  cases part with
  | verifications =>
    rw [address, String.append_assoc, Gateway.endpoint_append]
    exact .endpoint (by cases state <;> decide)
  | agent => exact .endpoint (by decide)
  | connections => exact .endpoint (by decide)
  | invitations => exact .endpoint (by decide)
  | credentials => exact .endpoint (by decide)

namespace Service

variable {s : Service} {site : Url.Site}

theorem revising_bears {g : Gateway} (hg : g.LeadsTo site) (token : String) {collection : String}
    (hcollection : Url.IsQuiet collection) (id : String) (change : Json) :
    ∀ stage ∈ g.revising token collection id change, stage.Bears token site := by
  rw [Gateway.revising, List.forall_mem_cons, List.forall_mem_singleton]
  exact ⟨hg.stage_bears token (.item hcollection id) _ _, hg.stage_bears token (.item hcollection id) _ _⟩

/-- All that an operation may send but a refresh are requests with the token of the wallet. -/
theorem plan_bears (hs : s.gateway.LeadsTo site) (w : Wallet) {operation : Operation}
    (h : operation ≠ .refreshToken) :
    ∀ stage ∈ s.plan w operation, stage.Bears w.accessToken site := by
  have hsubmission : Url.IsQuiet "invitation_processor" := by decide
  have hcredentials : Url.IsQuiet "credentials" := by decide
  have hverifications : Url.IsQuiet "verifications" := by decide
  cases operation with
  | preview url =>
    rw [plan, List.forall_mem_singleton]
    exact hs.stage_bears _ (.endpoint hsubmission) _ _
  | actOnOffer offer action =>
    cases action with
    | accept =>
      rw [plan, List.forall_mem_cons]
      exact ⟨hs.stage_bears _ (.endpoint hsubmission) _ _, revising_bears hs _ hcredentials _ _⟩
    | reject => exact revising_bears hs _ hcredentials _ _
  | actOnProofRequest request action =>
    cases action with
    | generate =>
      rw [plan, List.forall_mem_cons]
      exact ⟨hs.stage_bears _ (.endpoint hsubmission) _ _, revising_bears hs _ hverifications _ _⟩
    | share => exact revising_bears hs _ hverifications _ _
    | reject => exact revising_bears hs _ hverifications _ _
  | shareProof id => exact revising_bears hs _ hverifications _ _
  | rejectProof id => exact revising_bears hs _ hverifications _ _
  | updateConnection id update => exact revising_bears hs _ (by decide) _ _
  | deleteCredential id =>
    rw [plan, List.forall_mem_singleton]
    exact hs.stage_bears _ (.item hcredentials id) _ _
  | refreshToken => exact absurd rfl h
  | reload order =>
    rw [plan, List.forall_mem_map]
    exact fun part _ => hs.stage_bears _ (part.isAddress _ _) _ _

end Service

end CredentialWallet
