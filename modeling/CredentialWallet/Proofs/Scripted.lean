import CredentialWallet.Http.Script
import CredentialWallet.Proofs.Delivery
import CredentialWallet.Proofs.Join
import CredentialWallet.Proofs.StoredOnly
/-!
# Agencies without memory

An agency without memory answers a request in view of nothing else. A script is such an agency unless a
route gives several replies in turn. Behind one, a list of records is what the answer to its request
holds, whenever it was asked for.
-/

namespace CredentialWallet

open Http (Answer Request)

/-- The agency that answers a request in view of nothing else. -/
def Agency.forgetful (answer : Request → Option Answer) : Agency :=
  fun requests => requests.getLast?.bind answer

theorem Agency.forgetful_answer? (answer : Request → Option Answer) (j : Journal) (r : Request) :
    Link.answer? (.up (forgetful answer)) (j ++ [.request r]) = answer r := by
  have hlast : (Journal.requests (j ++ [.request r])).getLast? = some r := by
    rw [Journal.requests_append]
    exact List.getLast?_concat ..
  simp only [Link.answer?, forgetful, hlast, Option.bind_some]

/-! ### Scripts -/

namespace Http.Script

variable {script : Script}

theorem mem_of_route? {r : Request} {place : Nat} {route : Route}
    (h : script.route? r = some (place, route)) : route ∈ script := by
  obtain ⟨⟨found, n⟩, hmem, hfound⟩ := List.exists_of_findSome?_eq_some h
  dsimp only at hfound
  split at hfound
  · obtain ⟨-, rfl⟩ := Prod.mk.inj (Option.some.inj hfound)
    exact List.fst_mem_of_mem_zipIdx hmem
  · cases hfound

theorem reply_eq_reply_nil (h : ∀ route ∈ script, route.replies.length ≤ 1) (before : List Request)
    (r : Request) : script.reply before r = script.reply [] r := by
  rw [reply, reply]
  rcases hroute : script.route? r with _ | ⟨place, route⟩
  · rfl
  · have hlast : route.replies.length - 1 = 0 := Nat.sub_eq_zero_of_le (h route (mem_of_route? hroute))
    simp only [hlast, Nat.min_zero]

/-- A script with one reply a route is an agency without memory. -/
theorem agency_eq_forgetful (h : ∀ route ∈ script, route.replies.length ≤ 1) :
    script.agency = .forgetful (script.reply []) := by
  funext requests
  rw [agency, Agency.forgetful]
  cases requests.getLast? with
  | none => rfl
  | some r => exact reply_eq_reply_nil h requests.dropLast r

end Http.Script

/-! ### Lists -/

namespace Holdings

variable {g : Gateway} {token : String} {state : VerificationState} {j k : Journal} {part : Part}

theorem Listed.items_of_forgetful {τ : Type} [Record.Codec τ] {answer : Request → Option Answer}
    {records : List τ} {r : Request}
    (h : Listed g token state (.up (.forgetful answer)) j k part records)
    (hr : Gateway.prepare g.userAgent .get (part.address g state) (some token) none = .ok r) :
    itemsOf (Talk.received r (answer r)) = .ok records := by
  obtain ⟨a, listing, ⟨before, q, -, -, hevent, ha⟩, hholds, hitems⟩ := h
  have hrequest : g.request? .get (.ok (part.address g state)) token none = some r :=
    Gateway.request?_of_prepared hr
  rw [Gateway.listing, hrequest] at hevent
  obtain rfl : r = q := Event.request.inj (Option.some.inj hevent)
  rw [Agency.forgetful_answer?] at ha
  exact itemsOf_eq_ok_iff.2 ⟨a, Talk.received_eq_ok_iff.2 ha, listing, hholds, hitems⟩

end Holdings

end CredentialWallet

namespace CredentialWallet.Sample

open Holdings (Part)

/-- The text of a listing, in pieces. -/
def listText (texts : List (List String)) : List String :=
  braced ("\"items\":[" :: ([","].intercalate texts ++ ["]"]))

def verification (id : String) (state : VerificationState) : Verification :=
  ⟨id, state, none, none, none, none, none, []⟩

/-- The text of such a verification, in pieces. -/
def verificationText (id state : String) : List String :=
  braced ["\"id\":\"", id, "\",\"state\":\"", state, "\""]

def previewText : List String :=
  braced ["\"id\":\"c\",", "\"url\":\"https://issuer.example/1\",", "\"requests~attach\":[]"]

/-- A route that is answered by a text, given in pieces. -/
def route (method path : String) (text : List String) : Http.Route :=
  ⟨method, path, [some (answering text)]⟩

/-- An agency that lists several records of each kind, commits the offer and answers what is asked of
single records. -/
def stocked : Http.Script := [
  route "GET" "/diagency/v1.0/diagency/agents/me"
    (braced ["\"id\":\"a\",", "\"name\":\"holder\",", "\"url\":\"\""]),
  route "GET" "/diagency/v1.0/diagency/connections"
    (listText [connectionText "k1", connectionText "k2"]),
  route "GET" "/diagency/v1.0/diagency/invitations"
    (listText [braced ["\"id\":\"i\",", "\"url\":\"u\""], braced ["\"id\":\"j\",", "\"url\":\"v\""]]),
  route "GET" "/diagency/v1.0/diagency/credentials"
    (listText [credentialText "1" "stored", credentialText "2" "accepted",
      credentialText "3" "stored"]),
  route "GET" "/diagency/v1.0/diagency/verifications?state=passed"
    (listText [verificationText "v1" "passed", verificationText "v2" "passed"]),
  route "POST" "/diagency/v1.0/diagency/invitation_processor" previewText,
  route "PATCH" "/diagency/v1.0/diagency/credentials/c" (credentialText "c" "stored"),
  route "PATCH" "/diagency/v1.0/diagency/verifications/v1" (verificationText "v1" "proof_shared"),
  ⟨"DELETE", "/diagency/v1.0/diagency/credentials/1", [some ⟨204, none, []⟩]⟩]

theorem stocked_eq_forgetful : stocked.agency = .forgetful (stocked.reply []) :=
  Http.Script.agency_eq_forgetful (by decide)

/-- What the agency lists for each part. -/
def listed : (part : Part) → part.Content
  | .agent => wallet.agent
  | .connections => [connection "k1", connection "k2"]
  | .invitations => [⟨"i", "u", none, none, []⟩, ⟨"j", "v", none, none, []⟩]
  | .credentials => [credential "1" .stored, credential "2" .accepted, credential "3" .stored]
  | .verifications => [verification "v1" .passed, verification "v2" .passed]

/-- What a wallet keeps of it. -/
def stock : Holdings where
  agent := listed .agent
  connections := listed .connections
  invitations := listed .invitations
  credentials := [credential "1" .stored, credential "3" .stored]
  verifications := listed .verifications

/-- Where an item of the agency stands. -/
def itemUrl (path : List String) : Url where
  scheme := "http"
  authority := some ⟨[], [], "[::1]".toList, none⟩
  route := .segments ((["diagency", "v1.0", "diagency"] ++ path).map String.toList)
  query := none
  fragment := none

/-- Where a part is asked for. -/
def located : Part → Url
  | .agent => itemUrl ["agents", "me"]
  | .verifications => { itemUrl ["verifications"] with query := some "state=passed".toList }
  | part => itemUrl [part.name]

/-- What is sent for a part. -/
def asked (part : Part) : Http.Request where
  method := .get
  url := located part
  authorization := ["Bearer access"]
  userAgent := "client"
  body := none

theorem prepare_asked (part : Part) :
    Gateway.prepare service.gateway.userAgent .get
      (part.address service.gateway service.verificationState) (some wallet.accessToken) none =
        .ok (asked part) := by
  cases part <;> decide +kernel

theorem eq_asked_of_prepared {requests : Part → Http.Request}
    (h : ∀ part, Gateway.prepare service.gateway.userAgent .get
      (part.address service.gateway service.verificationState) (some wallet.accessToken) none =
        .ok (requests part)) : requests = asked :=
  funext fun part => Except.ok.inj ((h part).symm.trans (prepare_asked part))

theorem read_stocked (part : Part) :
    part.read (Talk.received (asked part) (stocked.reply [] (asked part))) = .ok (listed part) := by
  cases part <;> decide +kernel

theorem hold_stocked : Holdings.Answers.Hold
    (fun part => Talk.received (asked part) (stocked.reply [] (asked part))) stock :=
  Holdings.Answers.hold_of_read read_stocked

end CredentialWallet.Sample
