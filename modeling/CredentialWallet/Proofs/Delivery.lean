import CredentialWallet.Proofs.Requests
/-!
# What comes of a request

A request that can be put together reaches the agency, and from then on nothing but its answer counts.
One that cannot be put together leaves nothing in the journal.
-/

namespace CredentialWallet

open Http (Answer Method Request Transport)

namespace Talk

variable {ε α β : Type}

theorem ofExcept_ok_bind (a : α) (f : α → Talk ε β) : (ofExcept (.ok a) >>= f) = f a := rfl

theorem bind_ofExcept_apply {x : Talk ε α} {link : Link} {j k : Journal} {result : Except ε α}
    (h : x link j = (result, k)) (f : α → Except ε β) :
    (x >>= fun a => ofExcept (f a)) link j = (result >>= f, k) := by
  cases result with
  | error e => exact bind_of_error h _
  | ok a => exact bind_of_ok h _

theorem mapError_apply {ε' : Type} {x : Talk ε α} {link : Link} {j k : Journal} {result : Except ε α}
    (h : x link j = (result, k)) (f : ε → ε') : x.mapError f link j = (result.mapError f, k) := by
  rw [mapError, h]

/-- What is received for a request: the answer to it, or that the agency hung up. -/
def received (r : Request) : Option Answer → Except Transport Answer
  | some a => .ok a
  | none => .error (.dropped r.url.text)

theorem received_eq_ok_iff {r : Request} {answer : Option Answer} {a : Answer} :
    received r answer = .ok a ↔ answer = some a := by
  cases answer <;> simp [received]

theorem deliver_up (agency : Agency) (r : Request) (j : Journal) :
    deliver r (.up agency) j =
      (.ok (received r (Link.answer? (.up agency) (j ++ [.request r]))), j ++ [.request r]) := by
  rcases h : agency (Journal.requests (j ++ [.request r])) with _ | a
  · simp only [deliver, Link.answer?, h, received]
  · simp only [deliver, Link.answer?, h, received]

theorem send_up (agency : Agency) (r : Request) (j : Journal) :
    send r (.up agency) j =
      (received r (Link.answer? (.up agency) (j ++ [.request r])), j ++ [.request r]) :=
  bind_ofExcept_apply (deliver_up agency r j) id

/-! ### One request -/

/-- Nothing is sent and the talk fails, or one request is sent and the answer to it decides what the
talk gives. -/
def RestsOn (x : Talk ε α) (gives : Answer → α → Prop) : Prop :=
  ∀ link j,
    (∃ e, x link j = (.error e, j)) ∨
      ∃ r result, x link j = (result, j ++ [.request r]) ∧
        ∀ a, result = .ok a ↔
          ∃ answer, link.answer? (j ++ [.request r]) = some answer ∧ gives answer a

namespace RestsOn

variable {x : Talk ε α} {gives : Answer → α → Prop}

theorem congr (h : x.RestsOn gives) {gives' : Answer → α → Prop}
    (hiff : ∀ answer a, gives answer a ↔ gives' answer a) : x.RestsOn gives' := by
  intro link j
  simp only [← hiff]
  exact h link j

theorem ofExcept_bind {γ : Type} {r : Except ε γ} {f : γ → Talk ε α}
    (hf : ∀ c, (f c).RestsOn gives) : (ofExcept r >>= f).RestsOn gives := by
  cases r with
  | error e => exact fun _ _ => .inl ⟨e, rfl⟩
  | ok c => exact hf c

theorem bind_ofExcept (h : x.RestsOn gives) (f : α → Except ε β) :
    (x >>= fun a => ofExcept (f a)).RestsOn fun answer b => ∃ a, gives answer a ∧ f a = .ok b := by
  intro link j
  obtain ⟨e, hfailed⟩ | ⟨r, result, hsent, hresult⟩ := h link j
  · exact .inl ⟨e, bind_of_error hfailed _⟩
  · refine .inr ⟨r, _, bind_ofExcept_apply hsent f, fun b => ?_⟩
    rw [bind_eq_ok_iff]
    simp only [hresult]
    constructor
    · rintro ⟨a, ⟨answer, hanswer, ha⟩, hb⟩
      exact ⟨answer, hanswer, a, ha, hb⟩
    · rintro ⟨answer, hanswer, a, ha, hb⟩
      exact ⟨a, ⟨answer, hanswer, ha⟩, hb⟩

theorem bind_pure (h : x.RestsOn gives) (f : α → β) :
    (x >>= fun a => pure (f a)).RestsOn fun answer b => ∃ a, gives answer a ∧ f a = b := by
  refine (h.bind_ofExcept fun a => .ok (f a)).congr fun answer b => ?_
  simp only [Except.ok.injEq]

/-- Where the request was sent, the answer to it is all that counts. -/
theorem eq_ok_iff (h : x.RestsOn gives) {link : Link} {j : Journal} {r : Request} {a : α}
    (hsent : (x link j).2 = j ++ [.request r]) :
    (x link j).1 = .ok a ↔
      ∃ answer, link.answer? (j ++ [.request r]) = some answer ∧ gives answer a := by
  obtain ⟨e, hfailed⟩ | ⟨q, result, hx, hresult⟩ := h link j
  · rw [hfailed] at hsent
    simp at hsent
  · rw [hx] at hsent ⊢
    obtain rfl : q = r := by simpa using hsent
    exact hresult a

end RestsOn

end Talk

namespace Gateway

variable {α : Type} [Record.Codec α] {g : Gateway} {method : Method} {url : String}
  {token : Option String} {body : Option Json}

theorem perform_of_prepared {r : Request} (agency : Agency) (j : Journal)
    (h : prepare g.userAgent method url token (body.map .json) = .ok r) :
    (g.perform method url token body : Talk Failure (Reply α)) (.up agency) j =
      ((Talk.received r (Link.answer? (.up agency) (j ++ [.request r]))).mapError .transport >>=
        interpret, j ++ [.request r]) := by
  rw [perform, h]
  exact Talk.bind_ofExcept_apply (Talk.mapError_apply (Talk.send_up agency r j) .transport)
    fun a => interpret (α := α) a

theorem perform_of_answered {r : Request} {agency : Agency} {j : Journal} {a : Answer}
    (h : prepare g.userAgent method url token (body.map .json) = .ok r)
    (ha : Link.answer? (.up agency) (j ++ [.request r]) = some a) :
    (g.perform method url token body : Talk Failure (Reply α)) (.up agency) j =
      (interpret a, j ++ [.request r]) := by
  rw [perform_of_prepared agency j h, ha]
  rfl

/-- A reply comes of an answer that is sorted into it, and of nothing else. -/
theorem perform_restsOn (method : Method) (url : String) (token : Option String) (body : Option Json) :
    (g.perform method url token body : Talk Failure (Reply α)).RestsOn
      fun a reply => interpret a = .ok reply := by
  intro link j
  rcases h : prepare g.userAgent method url token (body.map .json) with e | r
  · refine .inl ⟨.transport e, ?_⟩
    rw [perform, h]
    rfl
  · cases link with
    | down =>
      refine .inl ⟨.transport (.unreachable r.url.text), ?_⟩
      rw [perform, h]
      rfl
    | up agency =>
      refine .inr ⟨r, _, perform_of_prepared agency j h, fun reply => ?_⟩
      rw [bind_eq_ok_iff]
      simp only [mapError_eq_ok_iff, Talk.received_eq_ok_iff]

end Gateway

/-! ### Grants -/

theorem TokenEndpoint.ask_of_prepared {userAgent : String} {client : Client} {grant : Grant}
    {r : Request} (agency : Agency) (j : Journal)
    (h : Gateway.prepare userAgent .post client.tokenUrl none (some (.form (grant.form client))) =
      .ok r) :
    ask userAgent client grant (.up agency) j =
      ((Talk.received r (Link.answer? (.up agency) (j ++ [.request r]))).mapError .transport >>=
        interpret, j ++ [.request r]) := by
  rw [ask, h]
  exact Talk.bind_ofExcept_apply (Talk.mapError_apply (Talk.send_up agency r j) .transport) interpret

namespace TokenProvider

variable (userAgent : String) (client : Client) (grant : Grant)

theorem endpoint_ask_apply (link : Link) (j : Journal) :
    (endpoint userAgent).ask client grant link j =
      TokenEndpoint.ask userAgent client grant link (j ++ [.grant client grant]) := rfl

theorem endpoint_ask_journal_of_unsent {link : Link}
    (h : link = .down ∨ ∃ e, Gateway.prepare userAgent .post client.tokenUrl none
      (some (.form (grant.form client))) = .error e) (j : Journal) :
    ((endpoint userAgent).ask client grant link j).2 = j ++ [.grant client grant] := by
  rw [endpoint_ask_apply, TokenEndpoint.ask]
  rcases hr : Gateway.prepare userAgent .post client.tokenUrl none
      (some (.form (grant.form client))) with e | r
  · rfl
  · obtain rfl | ⟨e, he⟩ := h
    · rfl
    · rw [he] at hr
      cases hr

theorem endpoint_ask_journal_of_prepared {r : Request} (agency : Agency) (j : Journal)
    (h : Gateway.prepare userAgent .post client.tokenUrl none (some (.form (grant.form client))) =
      .ok r) :
    ((endpoint userAgent).ask client grant (.up agency) j).2 =
      j ++ [.grant client grant, .request r] := by
  rw [endpoint_ask_apply, TokenEndpoint.ask_of_prepared agency _ h, List.append_assoc,
    List.singleton_append]

/-- A grant is asked for in one request, unless none can be put together or brought to the endpoint. -/
theorem endpoint_ask_journal (link : Link) (j : Journal) :
    (((endpoint userAgent).ask client grant link j).2 = j ++ [.grant client grant] ∧
      (link = .down ∨ ∃ e, Gateway.prepare userAgent .post client.tokenUrl none
        (some (.form (grant.form client))) = .error e)) ∨
    ∃ r, ((endpoint userAgent).ask client grant link j).2 =
        j ++ [.grant client grant, .request r] ∧
      r.method = .post ∧ r.body = some (.form (grant.form client)) := by
  rcases hr : Gateway.prepare userAgent .post client.tokenUrl none
      (some (.form (grant.form client))) with e | r
  · exact .inl ⟨endpoint_ask_journal_of_unsent _ _ _ (.inr ⟨e, hr⟩) j, .inr ⟨e, rfl⟩⟩
  · cases link with
    | down => exact .inl ⟨endpoint_ask_journal_of_unsent _ _ _ (.inl rfl) j, .inl rfl⟩
    | up agency =>
      have hparts : r.method = .post ∧ r.body = some (.form (grant.form client)) := by
        obtain ⟨_, _, rfl⟩ := Gateway.prepare_eq_ok hr
        exact ⟨rfl, rfl⟩
      exact .inr ⟨r, endpoint_ask_journal_of_prepared _ _ _ agency j hr, hparts⟩

/-- A form is sent exactly if the way to the endpoint is open and its URL can be reached. -/
theorem endpoint_ask_sends_iff (link : Link) (j : Journal) :
    (∃ r, ((endpoint userAgent).ask client grant link j).2 = j ++ [.grant client grant, .request r]) ↔
      link ≠ .down ∧ ∃ u, Url.parse client.tokenUrl = .ok u ∧ u.IsReachable := by
  have hprepare : (∃ r, Gateway.prepare userAgent .post client.tokenUrl none
      (some (.form (grant.form client))) = .ok r) ↔
        ∃ u, Url.parse client.tokenUrl = .ok u ∧ u.IsReachable := by
    simp [Gateway.exists_prepare_eq_ok_iff]
  rw [← hprepare]
  rcases hr : Gateway.prepare userAgent .post client.tokenUrl none
      (some (.form (grant.form client))) with e | r
  · simp [endpoint_ask_journal_of_unsent _ _ _ (.inr ⟨e, hr⟩) j]
  · cases link with
    | down => simp [endpoint_ask_journal_of_unsent userAgent client grant (.inl rfl) j]
    | up agency => simp [endpoint_ask_journal_of_prepared _ _ _ agency j hr]

end TokenProvider

end CredentialWallet
