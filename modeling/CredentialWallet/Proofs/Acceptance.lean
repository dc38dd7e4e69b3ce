import CredentialWallet.Proofs.Session
/-!
# Which descriptors are accepted

A descriptor is refused for the first of its required values that is blank, and accepted if none is.
That is asked of the base URL as it is given, and the slashes it ends in are dropped later. So of a base
URL that has nothing but slashes behind blanks, the blanks are left, or nothing at all. No resource has an
address there: whoever opens a wallet with such a descriptor is signed in and then gets no further.
-/

namespace CredentialWallet

namespace Text

theorem slash_notMem_of_allBlank {s : String} (h : allBlank s = true) : '/' ∉ s.toList := by
  intro hmem
  have hblank := List.all_eq_true.1 h '/' hmem
  exact absurd hblank (by decide)

theorem colon_notMem_of_allBlank {s : String} (h : allBlank s = true) : ':' ∉ s.toList := by
  intro hmem
  have hblank := List.all_eq_true.1 h ':' hmem
  exact absurd hblank (by decide)

theorem getLast?_dropTrailingSlashes (s : String) :
    (dropTrailingSlashes s).toList.getLast? ≠ some '/' := by
  intro hlast
  rw [dropTrailingSlashes, String.toList_ofList] at hlast
  exact absurd (trimEnd_last hlast) (by decide)

theorem dropTrailingSlashes_of_notMem {s : String} (h : '/' ∉ s.toList) : dropTrailingSlashes s = s := by
  obtain ⟨n, hn⟩ := exists_eq_dropTrailingSlashes_append s
  cases n with
  | zero => rwa [slashes, List.replicate_zero, String.ofList_nil, String.append_empty, eq_comm] at hn
  | succ n =>
    refine absurd ?_ h
    rw [hn, String.toList_append, slashes, String.toList_ofList]
    exact List.mem_append_right _ List.mem_cons_self

/-- Blanks are what is left exactly of blanks with slashes behind them. -/
theorem allBlank_dropTrailingSlashes_iff {s : String} :
    allBlank (dropTrailingSlashes s) = true ↔ ∃ gap n, allBlank gap = true ∧ s = gap ++ slashes n := by
  constructor
  · intro h
    obtain ⟨n, hn⟩ := exists_eq_dropTrailingSlashes_append s
    exact ⟨dropTrailingSlashes s, n, h, hn⟩
  · rintro ⟨gap, n, hgap, rfl⟩
    rwa [dropTrailingSlashes_append, dropTrailingSlashes_of_notMem (slash_notMem_of_allBlank hgap)]

theorem dropTrailingSlashes_eq_empty_iff {s : String} :
    dropTrailingSlashes s = "" ↔ ∃ n, s = slashes n := by
  constructor
  · intro h
    obtain ⟨n, hn⟩ := exists_eq_dropTrailingSlashes_append s
    rw [h, String.empty_append] at hn
    exact ⟨n, hn⟩
  · rintro ⟨n, rfl⟩
    rw [← String.empty_append (s := slashes n), dropTrailingSlashes_append]
    rfl

end Text

namespace Descriptor

/-- The required values are gone through in this order, and this is the first one to be blank. -/
inductive FirstBlank (d : Descriptor) : String → Prop
  | base (h : Text.allBlank d.serviceBaseUrl = true) : FirstBlank d "serviceBaseUrl"
  | token (hbase : Text.allBlank d.serviceBaseUrl = false) (h : Text.allBlank d.tokenUrl = true) :
    FirstBlank d "tokenUrl"
  | client (hbase : Text.allBlank d.serviceBaseUrl = false) (htoken : Text.allBlank d.tokenUrl = false)
    (h : Text.allBlank d.clientId = true) : FirstBlank d "clientId"

theorem firstBlank_or (d : Descriptor) :
    (∃ field, d.FirstBlank field) ∨ Text.allBlank d.serviceBaseUrl = false ∧
      Text.allBlank d.tokenUrl = false ∧ Text.allBlank d.clientId = false := by
  rcases hbase : Text.allBlank d.serviceBaseUrl with _ | _
  · rcases htoken : Text.allBlank d.tokenUrl with _ | _
    · rcases hclient : Text.allBlank d.clientId with _ | _
      · exact .inr ⟨rfl, rfl, rfl⟩
      · exact .inl ⟨_, .client hbase htoken hclient⟩
    · exact .inl ⟨_, .token hbase htoken⟩
  · exact .inl ⟨_, .base hbase⟩

variable {raw : String} {d : Descriptor}

theorem FirstBlank.exists_find? {field : String} (h : d.FirstBlank field) :
    ∃ value, d.requiredValues.find? (fun entry => Text.allBlank entry.2) = some (field, value) := by
  cases h with
  | base h => exact ⟨d.serviceBaseUrl, by simp only [requiredValues, List.find?, h]⟩
  | token hbase h => exact ⟨d.tokenUrl, by simp only [requiredValues, List.find?, hbase, h]⟩
  | client hbase htoken h =>
    exact ⟨d.clientId, by simp only [requiredValues, List.find?, hbase, htoken, h]⟩

theorem FirstBlank.ofText_eq {field : String} (h : d.FirstBlank field)
    (hread : Record.ofText raw = .ok d) : ofText raw = .error (.blank field) := by
  obtain ⟨value, hfound⟩ := h.exists_find?
  have hmapped : (Record.ofText raw).mapError Error.unreadable = .ok d :=
    mapError_eq_ok_iff.2 hread
  rw [ofText, hmapped]
  simp only [bind, Except.bind, hfound]

theorem ofText_eq_error_iff (hread : Record.ofText raw = .ok d) {e : Error} :
    ofText raw = .error e ↔ ∃ field, d.FirstBlank field ∧ e = .blank field := by
  constructor
  · intro h
    rcases d.firstBlank_or with ⟨field, hfirst⟩ | hnone
    · rw [hfirst.ofText_eq hread] at h
      exact ⟨field, hfirst, (Except.error.inj h).symm⟩
    · rw [ofText_eq_ok_iff.2 ⟨hread, hnone⟩] at h
      cases h
  · rintro ⟨field, hfirst, rfl⟩
    exact hfirst.ofText_eq hread

/-! ### Base URLs of which nothing is left -/

theorem allBlank_baseUrl_iff (hbase : Text.allBlank d.serviceBaseUrl = false) :
    Text.allBlank d.baseUrl = true ↔
      ∃ gap n, Text.allBlank gap = true ∧ d.serviceBaseUrl = gap ++ Text.slashes (n + 1) := by
  rw [baseUrl, Text.allBlank_dropTrailingSlashes_iff]
  constructor
  · rintro ⟨gap, n, hgap, hs⟩
    cases n with
    | zero =>
      rw [hs, Text.slashes, List.replicate_zero, String.ofList_nil, String.append_empty, hgap] at hbase
      cases hbase
    | succ n => exact ⟨gap, n, hgap, hs⟩
  · rintro ⟨gap, n, hgap, hs⟩
    exact ⟨gap, n + 1, hgap, hs⟩

theorem baseUrl_eq_empty_iff (hbase : Text.allBlank d.serviceBaseUrl = false) :
    d.baseUrl = "" ↔ ∃ n, d.serviceBaseUrl = Text.slashes (n + 1) := by
  rw [baseUrl, Text.dropTrailingSlashes_eq_empty_iff]
  constructor
  · rintro ⟨n, hs⟩
    cases n with
    | zero =>
      rw [hs] at hbase
      cases hbase
    | succ n => exact ⟨n, hs⟩
  · rintro ⟨n, hs⟩
    exact ⟨n + 1, hs⟩

theorem baseUrl_of_gateway {settings : Settings} {g : Gateway}
    (h : Gateway.new d.baseUrl settings = .ok g) : g.baseUrl = d.baseUrl := by
  rw [Gateway.new_eq_ok h, baseUrl, Text.dropTrailingSlashes_idem]

end Descriptor

namespace Holdings

theorem fetch_of_colon_notMem {g : Gateway} (h : ':' ∉ g.baseUrl.toList) (token : String)
    (state : VerificationState) (order : List Part) (link : Link) (j : Journal) :
    fetch g token state order link j =
      (.error (.notFetched Part.agent.name (.transport (.unusableUrl .relative))), j) := by
  have hresource : ':' ∉ "agents/me".toList := by decide
  have haddress : Url.parse (Part.agent.address g state) = .error .relative :=
    Gateway.parse_endpoint_of_colon_notMem h hresource
  have hask : ask g token state .agent link j =
      (.error (.notFetched Part.agent.name (.transport (.unusableUrl .relative))), j) := by
    rw [ask, Gateway.prepare, haddress]
    rfl
  rw [fetch, Talk.bind_of_error hask]

end Holdings

namespace Opener

/-- With a base URL of which nothing but blanks is left, whoever signs in has signed in for nothing. -/
theorem SignsIn.initiate_of_allBlank {o : Opener} {login : Login} {link : Link} {i j : Journal}
    {d : Descriptor} {g : Gateway} {token : Token} (h : o.SignsIn login link i j d g token)
    (hblank : Text.allBlank d.baseUrl = true) (order : List Holdings.Part) :
    o.initiate login order link i =
      (.error (.notFetched Holdings.Part.agent.name (.transport (.unusableUrl .relative))), j) := by
  have hcolon : ':' ∉ g.baseUrl.toList := by
    rw [Descriptor.baseUrl_of_gateway h.gateway]
    exact Text.colon_notMem_of_allBlank hblank
  exact h.initiate (Holdings.fetch_of_colon_notMem hcolon token.access _ order link j)

end Opener

namespace Descriptor

/-- What an accepted descriptor comes to. -/
structure IsAccepted (raw : String) (d : Descriptor) : Prop where
  read : Record.ofText raw = .ok d
  base : Text.allBlank d.serviceBaseUrl = false
  token : Text.allBlank d.tokenUrl = false
  client : Text.allBlank d.clientId = false
  trimmed : d.baseUrl.toList.getLast? ≠ some '/'
  /-- Nothing but blanks is left of the base URL. -/
  blank_iff : Text.allBlank d.baseUrl = true ↔
    ∃ gap n, Text.allBlank gap = true ∧ d.serviceBaseUrl = gap ++ Text.slashes (n + 1)
  /-- Nothing at all is left of it. -/
  empty_iff : d.baseUrl = "" ↔ ∃ n, d.serviceBaseUrl = Text.slashes (n + 1)
  /-- Resources are addressed behind what is left. -/
  gateway : ∀ (settings : Settings) (g : Gateway), Gateway.new d.baseUrl settings = .ok g →
    g.baseUrl = d.baseUrl
  /-- Behind blanks none has an address, which is found out when a token was granted already. -/
  unaddressed : Text.allBlank d.baseUrl = true →
    ∀ (o : Opener) (login : Login) (order : List Holdings.Part) (link : Link) (i j : Journal)
      (g : Gateway) (token : Token), o.SignsIn login link i j d g token →
        o.initiate login order link i =
          (.error (.notFetched Holdings.Part.agent.name (.transport (.unusableUrl .relative))), j)

/-- A text that reads as a descriptor is refused exactly for the first of its required values that is
blank. None is in a descriptor that is accepted, and its base URL does not end in a slash; blank or empty
it is exactly if the base URL was given as blanks or nothing with slashes behind. No wallet is opened
there. -/
theorem ofText_refuses_blank (raw : String) :
    (∀ d : Descriptor, Record.ofText raw = .ok d →
      ∀ e, ofText raw = .error e ↔ ∃ field, d.FirstBlank field ∧ e = .blank field) ∧
    ∀ d, ofText raw = .ok d → IsAccepted raw d := by
  refine ⟨fun d hread e => ofText_eq_error_iff hread, fun d h => ?_⟩
  obtain ⟨hread, hbase, htoken, hclient⟩ := ofText_eq_ok_iff.1 h
  exact {
    read := hread
    base := hbase
    token := htoken
    client := hclient
    trimmed := Text.getLast?_dropTrailingSlashes d.serviceBaseUrl
    blank_iff := allBlank_baseUrl_iff hbase
    empty_iff := baseUrl_eq_empty_iff hbase
    gateway := fun _ _ => baseUrl_of_gateway
    unaddressed := fun hblank _ _ order _ _ _ _ _ hsigned => hsigned.initiate_of_allBlank hblank order }

end Descriptor

end CredentialWallet

namespace CredentialWallet.Sample

/-- The text of a descriptor of the client `c`. -/
def descriptorText (base token : String) : String :=
  String.join (braced ["\"serviceBaseUrl\":\"", base, "\",\"tokenUrl\":\"", token, "\",",
    "\"clientId\":\"c\""])

def descriptor (base token : String) : Descriptor := ⟨base, token, "c", none, none⟩

end CredentialWallet.Sample

namespace CredentialWallet.Descriptor

open Sample

/-- A blank address of the token endpoint is told, though the client is given; and of a base URL that is
a blank with two slashes behind it the blank is left, where no wallet is opened. -/
theorem ofText_refuses_blank_gap :
    ofText (descriptorText "http://[::1]" " ") = .error (.blank "tokenUrl") ∧
      ofText (descriptorText " //" "t") = .ok (descriptor " //" "t") ∧
      Text.allBlank (descriptor " //" "t").baseUrl = true ∧
      (opener.initiate { login with descriptor := descriptorText " //" "t" } [] (.up listing) []).1 =
        .error (.notFetched "agent" (.transport (.unusableUrl .relative))) := by
  have hread : Record.ofText (descriptorText "http://[::1]" " ") = .ok (descriptor "http://[::1]" " ") := by
    decide +kernel
  have hfirst : (descriptor "http://[::1]" " ").FirstBlank "tokenUrl" := .token (by decide) (by decide)
  have hrefused := ((ofText_refuses_blank _).1 _ hread _).2 ⟨_, hfirst, rfl⟩
  have h : ofText (descriptorText " //" "t") = .ok (descriptor " //" "t") := by decide +kernel
  have haccepted := (ofText_refuses_blank (descriptorText " //" "t")).2 _ h
  have hblank : Text.allBlank (descriptor " //" "t").baseUrl = true :=
    haccepted.blank_iff.2 ⟨" ", 1, by decide, by decide⟩
  have hsigned : opener.SignsIn { login with descriptor := descriptorText " //" "t" } (.up listing) []
      signedIn (descriptor " //" "t") ⟨" ", "client"⟩ (Token.bearer "access") :=
    ⟨h, by decide +kernel, by decide +kernel⟩
  have hopening := haccepted.unaddressed hblank opener _ [] (.up listing) _ _ _ _ hsigned
  exact ⟨hrefused, h, hblank, congrArg Prod.fst hopening⟩

/-- Slashes alone are accepted as a base URL, and of them nothing is left. -/
theorem ofText_of_slashes :
    ofText (descriptorText "///" "t") = .ok (descriptor "///" "t") ∧
      (descriptor "///" "t").baseUrl = "" ∧
      (opener.initiate { login with descriptor := descriptorText "///" "t" } [] (.up listing) []).1 =
        .error (.notFetched "agent" (.transport (.unusableUrl .relative))) := by
  decide +kernel

end CredentialWallet.Descriptor
