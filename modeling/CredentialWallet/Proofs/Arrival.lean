import CredentialWallet.Proofs.Scripted
/-!
# Answers in any order

A fetch sends its five requests whatever is answered, so the answers are fixed before any of them is
looked at, and the order in which they arrive enters only into the join. Opening and reloading take what
the join settles on: all of it, or the failure alone.
-/

namespace CredentialWallet

open Http (Answer Request Transport)

/-! ### Requests that can be sent -/

namespace Gateway

/-- Behind the base URL of a gateway, all parts of a wallet can be asked for. -/
def IsUsable (g : Gateway) (state : VerificationState) : Prop :=
  ∀ part : Holdings.Part, ∃ u, Url.parse (part.address g state) = .ok u ∧ u.IsReachable

theorem IsUsable.exists_requests {g : Gateway} {state : VerificationState} {token : String}
    (hg : g.IsUsable state) (htoken : Http.isSendable ("Bearer " ++ token) = true) :
    ∃ requests : Holdings.Part → Request, ∀ part,
      prepare g.userAgent .get (part.address g state) (some token) none = .ok (requests part) :=
  Classical.axiomOfChoice fun part =>
    exists_prepare_eq_ok_iff.2 ⟨hg part, fun _ ht => Option.mem_some.1 ht ▸ htoken⟩

end Gateway

/-! ### Fetches -/

namespace Holdings

/-- The parts that are asked for up to a part. -/
def Part.upTo (part : Part) : List Part := Part.all.takeWhile (· ≠ part) ++ [part]

/-- What goes into the journal when parts are asked for. -/
def asking (requests : Part → Request) (parts : List Part) : Journal :=
  parts.map fun part => .request (requests part)

/-- What is received when the parts are asked for in turn, behind a journal. -/
def Answers.of (agency : Agency) (requests : Part → Request) (j : Journal) : Answers := fun part =>
  Talk.received (requests part) (Link.answer? (.up agency) (j ++ asking requests part.upTo))

/-- Behind an agency without memory it does not matter when a part is asked for. -/
theorem Answers.of_forgetful (answer : Request → Option Answer) (requests : Part → Request)
    (j : Journal) :
    Answers.of (.forgetful answer) requests j =
      fun part => Talk.received (requests part) (answer (requests part)) := by
  funext part
  have hasking : asking requests part.upTo =
      asking requests (Part.all.takeWhile (· ≠ part)) ++ [.request (requests part)] := by
    simp [asking, Part.upTo]
  rw [Answers.of, hasking, ← List.append_assoc, Agency.forgetful_answer?]

variable {g : Gateway} {token : String} {state : VerificationState}

theorem ask_of_prepared {part : Part} {r : Request} (agency : Agency) (j : Journal)
    (h : Gateway.prepare g.userAgent .get (part.address g state) (some token) none = .ok r) :
    ask g token state part (.up agency) j =
      (.ok (Talk.received r (Link.answer? (.up agency) (j ++ [.request r]))), j ++ [.request r]) := by
  rw [ask, h]
  exact Talk.mapError_apply (Talk.deliver_up agency r j) _

/-- All parts are asked for, and then the answers are joined as they arrive. -/
theorem fetch_of_prepared {requests : Part → Request} (agency : Agency) (j : Journal)
    (order : List Part)
    (h : ∀ part,
      Gateway.prepare g.userAgent .get (part.address g state) (some token) none = .ok (requests part)) :
    fetch g token state order (.up agency) j =
      ((Answers.of agency requests j).fetched.arriving order, j ++ asking requests Part.all) := by
  rw [fetch]
  rw [Talk.bind_of_ok (ask_of_prepared agency _ (h .agent)),
    Talk.bind_of_ok (ask_of_prepared agency _ (h .connections)),
    Talk.bind_of_ok (ask_of_prepared agency _ (h .invitations)),
    Talk.bind_of_ok (ask_of_prepared agency _ (h .credentials)),
    Talk.bind_of_ok (ask_of_prepared agency _ (h .verifications))]
  simp only [List.append_assoc, List.cons_append, List.nil_append]
  rfl

end Holdings

/-! ### Openings and reloads -/

namespace Opener

/-- Signing in goes well and leaves this journal. -/
structure SignsIn (o : Opener) (login : Login) (link : Link) (i j : Journal) (d : Descriptor)
    (g : Gateway) (token : Token) : Prop where
  descriptor : Descriptor.ofText login.descriptor = .ok d
  gateway : Gateway.new d.baseUrl o.settings = .ok g
  granted : o.provider.ask d.client (.password login.username login.password) link i = (.ok token, j)

/-- The wallet of holdings that were fetched behind a gateway. -/
def filled (d : Descriptor) (g : Gateway) (token : Token) (h : Holdings) : Wallet where
  toHoldings := h
  refreshUri := d.client.tokenUrl
  baseUri := g.baseUrl
  clientId := d.client.id
  clientSecret := d.client.secret
  token := token

theorem SignsIn.initiate {o : Opener} {login : Login} {link : Link} {i j k : Journal} {d : Descriptor}
    {g : Gateway} {token : Token} {order : List Holdings.Part} {result : Except OpeningFailure Holdings}
    (h : o.SignsIn login link i j d g token)
    (hfetch : Holdings.fetch g token.access o.settings.verificationState order link j = (result, k)) :
    o.initiate login order link i = (result.map (filled d g token), k) := by
  have hdescriptor : (Talk.ofExcept ((Descriptor.ofText login.descriptor).mapError .badDescriptor) :
      Talk OpeningFailure Descriptor) link i = (.ok d, i) := by
    rw [h.descriptor]
    rfl
  have hgateway : (Talk.ofExcept ((Gateway.new d.baseUrl o.settings).mapError .badSettings) :
      Talk OpeningFailure Gateway) link i = (.ok g, i) := by
    rw [h.gateway]
    rfl
  have hgranted := Talk.mapError_apply h.granted OpeningFailure.notSignedIn
  rw [Opener.initiate, Talk.bind_of_ok hdescriptor, Talk.bind_of_ok hgateway, Talk.bind_of_ok hgranted]
  cases result with
  | error e => exact Talk.bind_of_error hfetch _
  | ok h => exact Talk.bind_of_ok hfetch _

end Opener

namespace Service

variable {s : Service} {link : Link} {w : Wallet} {order : List Holdings.Part} {j k : Journal}

theorem perform_reload_of_ok {h : Holdings}
    (hfetch : Holdings.fetch s.gateway w.accessToken s.verificationState order link j = (.ok h, k)) :
    s.perform (.reload order) link w j = (.ok .done, w.recordHoldings h, k) := by
  have hasked : s.inquire w (.reload order) link j = (.ok (.holdings h), k) := finding_of_ok hfetch
  exact perform_of_ok hasked

theorem perform_reload_of_error {e : OpeningFailure}
    (hfetch : Holdings.fetch s.gateway w.accessToken s.verificationState order link j =
      (.error e, k)) :
    s.perform (.reload order) link w j = (.error (.notReloaded e), w, k) := by
  have hasked : s.inquire w (.reload order) link j = (.error (.notReloaded e), k) :=
    finding_of_error hfetch
  exact perform_of_error hasked

end Service

/-! ### Every order -/

namespace Holdings

/-- The five requests and their answers do not depend on the order in which the answers arrive, and the
result depends on it only through the first failure: it is what all answers hold if they are good, and
else the failure of the answer that arrives first among those that are not. Both a reload and an
opening that got as far as a token send exactly these requests and take this result, and a failure
leaves the wallet as it was, or leaves none. -/
theorem settles_in_any_order {g : Gateway} {token : String} {state : VerificationState}
    (hg : g.IsUsable state) (htoken : Http.isSendable ("Bearer " ++ token) = true)
    (agency : Agency) (j : Journal) :
    ∃ requests : Part → Request,
      (∀ part, Gateway.prepare g.userAgent .get (part.address g state) (some token) none =
        .ok (requests part)) ∧
      ∀ order, order.Perm Part.all → ∃ result,
        Settled (Answers.of agency requests j) order result ∧
        (∀ (s : Service) (w : Wallet), s.gateway = g → w.accessToken = token →
          s.verificationState = state →
            (∀ h, result = .ok h → s.perform (.reload order) (.up agency) w j =
              (.ok .done, w.recordHoldings h, j ++ asking requests Part.all)) ∧
            ∀ e, result = .error e → s.perform (.reload order) (.up agency) w j =
              (.error (.notReloaded e), w, j ++ asking requests Part.all)) ∧
        ∀ (o : Opener) (login : Login) (i : Journal) (d : Descriptor) (granted : Token),
          o.SignsIn login (.up agency) i j d g granted → granted.access = token →
            o.settings.verificationState = state →
              o.initiate login order (.up agency) i =
                (result.map (Opener.filled d g granted), j ++ asking requests Part.all) := by
  obtain ⟨requests, hrequests⟩ := hg.exists_requests htoken
  refine ⟨requests, hrequests, fun order horder => ⟨_, Join.settled horder, ?_, ?_⟩⟩
  · rintro s w rfl rfl rfl
    have hfetch := fetch_of_prepared agency j order hrequests
    refine ⟨fun h hresult => ?_, fun e hresult => ?_⟩
    · rw [hresult] at hfetch
      exact Service.perform_reload_of_ok hfetch
    · rw [hresult] at hfetch
      exact Service.perform_reload_of_error hfetch
  · rintro o login i d granted hsigned rfl rfl
    exact hsigned.initiate (fetch_of_prepared agency j order hrequests)

end Holdings

end CredentialWallet

namespace CredentialWallet.Sample

/-- An agency that breaks down. -/
def broken : Http.Answer := ⟨500, none, []⟩

/-- The journal once a token was granted for the login. -/
def signedIn : Journal := [.grant ⟨"t", "c", none⟩ (.password "holder" "secret")]

theorem signsIn_opener (link : Link) :
    opener.SignsIn login link [] signedIn ⟨"http://[::1]", "t", "c", none, none⟩ service.gateway
      (Token.bearer "access") where
  descriptor := by decide +kernel
  gateway := by decide +kernel
  granted := rfl

theorem fetch_stocked (order : List Holdings.Part) (j : Journal) :
    Holdings.fetch service.gateway wallet.accessToken service.verificationState order
        (.up stocked.agency) j =
      (.ok stock, j ++ Holdings.asking asked Holdings.Part.all) := by
  rw [Holdings.fetch_of_prepared stocked.agency j order prepare_asked, stocked_eq_forgetful,
    Holdings.Answers.of_forgetful,
    Holdings.Fetched.arriving_of_holdings (Holdings.Answers.hold_iff.1 hold_stocked)]

end CredentialWallet.Sample

namespace CredentialWallet.Holdings

open Sample

theorem isUsable_gateway : service.gateway.IsUsable service.verificationState := fun part =>
  (Gateway.exists_prepare_eq_ok_iff.1 ⟨_, prepare_asked part⟩).1

/-- All five answers fail, and each time the one that arrives first is told. All five are good, and in
either order the wallet holds what they list. -/
theorem settles_in_any_order_broken_and_stocked :
    (service.perform (.reload Part.all.reverse) (.up fun _ => some broken) wallet signedIn =
        (.error (.notReloaded (.notFetched "verifications" (Gateway.apiFailure broken))), wallet,
          signedIn ++ asking asked Part.all) ∧
      opener.initiate login Part.all (.up fun _ => some broken) [] =
        (.error (.notFetched "agent" (Gateway.apiFailure broken)),
          signedIn ++ asking asked Part.all)) ∧
    (service.perform (.reload Part.all) (.up stocked.agency) wallet signedIn =
        (.ok .done, { wallet with toHoldings := stock }, signedIn ++ asking asked Part.all) ∧
      opener.initiate login Part.all (.up stocked.agency) [] =
        (.ok { opened with toHoldings := stock }, signedIn ++ asking asked Part.all)) ∧
    service.perform (.reload Part.all.reverse) (.up stocked.agency) wallet signedIn =
        (.ok .done, { wallet with toHoldings := stock }, signedIn ++ asking asked Part.all) ∧
      opener.initiate login Part.all.reverse (.up stocked.agency) [] =
        (.ok { opened with toHoldings := stock }, signedIn ++ asking asked Part.all) := by
  have hsendable : Http.isSendable ("Bearer " ++ "access") = true := by decide +kernel
  constructor
  · obtain ⟨requests, hrequests, hsettles⟩ :=
      settles_in_any_order isUsable_gateway hsendable (fun _ => some broken) signedIn
    obtain rfl := eq_asked_of_prepared hrequests
    obtain ⟨reversed, hreversed, hreload, -⟩ := hsettles Part.all.reverse (List.reverse_perm _)
    obtain ⟨result, hresult, -, hinitiate⟩ := hsettles Part.all (List.Perm.refl _)
    have hverifications :
        reversed = .error (.notFetched "verifications" (Gateway.apiFailure broken)) :=
      (hreversed.error_iff _).2 ⟨.verifications, _, ⟨[], _, rfl, nofun, rfl⟩, rfl⟩
    have hagent : result = .error (.notFetched "agent" (Gateway.apiFailure broken)) :=
      (hresult.error_iff _).2 ⟨.agent, _, ⟨[], _, rfl, nofun, rfl⟩, rfl⟩
    refine ⟨(hreload service wallet rfl rfl rfl).2 _ hverifications, ?_⟩
    rw [hinitiate opener login [] _ _ (signsIn_opener _) rfl rfl, hagent]
    rfl
  · obtain ⟨requests, hrequests, hsettles⟩ :=
      settles_in_any_order isUsable_gateway hsendable stocked.agency signedIn
    obtain rfl := eq_asked_of_prepared hrequests
    rw [stocked_eq_forgetful, Answers.of_forgetful] at hsettles
    have hgood (order : List Part) (horder : order.Perm Part.all) :
        service.perform (.reload order) (.up stocked.agency) wallet signedIn =
            (.ok .done, { wallet with toHoldings := stock }, signedIn ++ asking asked Part.all) ∧
          opener.initiate login order (.up stocked.agency) [] =
            (.ok { opened with toHoldings := stock }, signedIn ++ asking asked Part.all) := by
      obtain ⟨result, hsettled, hreload, hinitiate⟩ := hsettles order horder
      obtain rfl := (hsettled.ok_iff stock).2 hold_stocked
      rw [stocked_eq_forgetful]
      exact ⟨(hreload service wallet rfl rfl rfl).1 stock rfl,
        hinitiate opener login [] _ _ (signsIn_opener _) rfl rfl⟩
    exact ⟨hgood Part.all (List.Perm.refl _), hgood Part.all.reverse (List.reverse_perm _)⟩

end CredentialWallet.Holdings
