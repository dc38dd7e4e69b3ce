import CredentialWallet.Proofs.CommitFirst
import CredentialWallet.Proofs.Deletion
/-!
# Updates that are answered without a body

An agency may answer an update by the record or without a body, and then the record is fetched. Either
way the same body is read as the same record, or refused for the same cause, so for an operation it
makes no difference which of the two it meets. What the other agency gets to see is one request more,
which is the update again but for its method and its body: it goes to the same address with the same
token.

A talk learns of an agency only what that answers on the way (`Talk.IsLocal`), so two agencies need only
agree on what comes before the update.
-/

namespace CredentialWallet

open Http (Answer Method Request)

/-! ### Answers -/

namespace Http

/-- A success that holds some bytes. -/
def Answer.Carries (a : Answer) (body : List UInt8) : Prop :=
  a.isSuccess = true ∧ a.status ≠ 204 ∧ a.body = body

/-- The request for what another request changes. -/
def Request.refetch (r : Request) : Request := { r with method := .get, body := none }

end Http

namespace Gateway

variable {α : Type} [Record.Codec α]

theorem interpret_of_carries {a : Answer} {body : List UInt8} (h : a.Carries body)
    (hbody : body ≠ []) :
    (interpret a : Except Failure (Reply α)) =
      ((Record.ofBytes body).mapError .unreadable).map .content := by
  obtain ⟨hsuccess, h204, rfl⟩ := h
  have hredirect : isRedirect a.status ≠ true := fun hredirect => by
    rw [isSuccess_of_isRedirect hredirect] at hsuccess
    cases hsuccess
  have hsome : a.body.isEmpty ≠ true := by simpa using hbody
  rw [interpret, if_neg h204, if_neg hredirect, if_pos hsuccess, if_neg hsome]
  rcases (Record.ofBytes a.body : Except Record.Error α) with e | value <;> rfl

/-! ### Requests -/

/-- The method and the body have no say in whether a request can be put together. -/
theorem prepare_eq (userAgent : String) (method : Method) (address : String) (token : Option String)
    (body : Option Http.Body) :
    prepare userAgent method address token body =
      (prepare userAgent .get address token none).map fun r => { r with method, body } := by
  rw [prepare, prepare]
  rcases Url.parse address with e | url
  · rfl
  · dsimp only
    split_ifs <;> rfl

theorem prepare_refetch {userAgent address : String} {method : Method} {token : Option String}
    {body : Option Http.Body} {r : Request}
    (h : prepare userAgent method address token body = .ok r) :
    prepare userAgent .get address token none = .ok r.refetch := by
  rw [prepare_eq] at h
  obtain ⟨q, hq, rfl⟩ := map_eq_ok_iff.1 h
  obtain ⟨url, -, rfl⟩ := prepare_eq_ok hq
  exact hq

end Gateway

/-! ### Talks and the answers on their way -/

/-- An agency answers like another one as far as a journal goes. -/
def Agency.Follows (other agency : Agency) (k : Journal) : Prop :=
  ∀ i, i <+: k → Link.answer? (.up other) i = Link.answer? (.up agency) i

theorem Agency.Follows.of_prefix {other agency : Agency} {i k : Journal} (h : other.Follows agency k)
    (hi : i <+: k) : other.Follows agency i := fun _ hle => h _ (hle.trans hi)

namespace Talk

variable {ε ε' α β : Type}

/-- A talk only adds to the journal, and it is the same with every agency that answers alike on its
way. -/
structure IsLocal (x : Talk ε α) : Prop where
  grows : ∀ link j, j <+: (x link j).2
  congr : ∀ (agency other : Agency) (j : Journal),
    other.Follows agency (x (.up agency) j).2 → x (.up other) j = x (.up agency) j

theorem isLocal_ofExcept (r : Except ε α) : (ofExcept r).IsLocal :=
  ⟨fun _ _ => List.prefix_rfl, fun _ _ _ _ => rfl⟩

theorem IsLocal.mapError {x : Talk ε α} (h : x.IsLocal) (f : ε → ε') : (x.mapError f).IsLocal := by
  refine ⟨h.grows, fun agency other j hfollows => ?_⟩
  rw [Talk.mapError, Talk.mapError, h.congr agency other j hfollows]

theorem IsLocal.bind {x : Talk ε α} {f : α → Talk ε β} (hx : x.IsLocal) (hf : ∀ a, (f a).IsLocal) :
    (x >>= f).IsLocal := by
  constructor
  · intro link j
    have hgrows := hx.grows link j
    rcases h : x link j with ⟨e | a, k⟩
    · rw [bind_of_error h]
      rwa [h] at hgrows
    · rw [bind_of_ok h]
      rw [h] at hgrows
      exact hgrows.trans ((hf a).grows link k)
  · intro agency other j hfollows
    rcases h : x (.up agency) j with ⟨e | a, k⟩
    · rw [bind_of_error h] at hfollows ⊢
      have hsame : x (.up other) j = (.error e, k) := by
        rw [hx.congr agency other j (by rwa [h]), h]
      exact bind_of_error hsame f
    · rw [bind_of_ok h] at hfollows ⊢
      have hsame : x (.up other) j = (.ok a, k) := by
        rw [hx.congr agency other j, h]
        rw [h]
        exact hfollows.of_prefix ((hf a).grows _ _)
      rw [bind_of_ok hsame]
      exact (hf a).congr agency other k hfollows

theorem isLocal_deliver (r : Request) : (deliver r).IsLocal := by
  constructor
  · intro link j
    cases link with
    | down => exact List.prefix_rfl
    | up agency =>
      rw [deliver_up]
      exact List.prefix_append j _
  · intro agency other j hfollows
    rw [deliver_up] at hfollows
    have hanswer : Link.answer? (.up other) (j ++ [.request r]) =
        Link.answer? (.up agency) (j ++ [.request r]) := hfollows _ List.prefix_rfl
    rw [deliver_up, deliver_up, hanswer]

end Talk

theorem Gateway.isLocal_perform {α : Type} [Record.Codec α] (g : Gateway) (method : Method)
    (url : String) (token : Option String) (body : Option Json) :
    (g.perform method url token body : Talk Failure (Reply α)).IsLocal := by
  rw [perform]
  refine (Talk.isLocal_ofExcept _).bind fun r => ?_
  refine Talk.IsLocal.bind (Talk.IsLocal.mapError ?_ _) fun _ => Talk.isLocal_ofExcept _
  exact (Talk.isLocal_deliver r).bind fun answer => Talk.isLocal_ofExcept answer

theorem Invitation.isLocal_commit (g : Gateway) (token url : String) :
    (commit g token url).IsLocal := by
  rw [commit, submitForPreview, submit, Gateway.post]
  refine Talk.IsLocal.bind ?_ fun _ => Talk.isLocal_ofExcept _
  exact (g.isLocal_perform _ _ _ _).bind fun _ => Talk.isLocal_ofExcept _

/-! ### Updates -/

/-- An agency answers like another one up to an update, which that one answers by some bytes. This one
answers it without a body, and gives the bytes when it is asked for the item. -/
structure Agency.Postpones (other agency : Agency) (earlier : Journal) (patch : Request)
    (body : List UInt8) : Prop where
  asks : patch.method = .patch
  follows : other.Follows agency earlier
  body_ne_nil : body ≠ []
  direct : ∃ a, Link.answer? (.up agency) (earlier ++ [.request patch]) = some a ∧ a.Carries body
  bodyless : ∃ a, Link.answer? (.up other) (earlier ++ [.request patch]) = some a ∧ a.IsBodyless
  item : ∃ a, Link.answer? (.up other) (earlier ++ [.request patch, .request patch.refetch]) = some a ∧
    a.Carries body

namespace Resource

variable {τ υ : Type} [Resource τ] [Record.Codec υ] {g : Gateway} {token id url : String} {change : υ}
  {agency : Agency} {j : Journal} {patch : Request} {body : List UInt8}

theorem update_of_performed {link : Link} {k : Journal} {result : Except Failure (Gateway.Reply τ)}
    (hurl : g.itemEndpoint (collection τ) id = .ok url)
    (h : g.perform .patch url (some token) (some (Record.Codec.write change)) link j = (result, k)) :
    update g token id change link j =
      match result with
      | .error e => (.error e, k)
      | .ok .noContent => get g token id link k
      | .ok reply => (reply.intoContent, k) := by
  rw [update, hurl, Talk.ofExcept_ok_bind, Gateway.patch]
  cases result with
  | error e => exact Talk.bind_of_error h _
  | ok reply =>
    rw [Talk.bind_of_ok h]
    cases reply <;> rfl

section

variable (hurl : g.itemEndpoint (collection τ) id = .ok url)
  (hpatch : Gateway.prepare g.userAgent .patch url (some token)
    ((some (Record.Codec.write change)).map .json) = .ok patch)
include hurl hpatch

theorem update_of_carries {a : Answer} (hbody : body ≠ [])
    (ha : Link.answer? (.up agency) (j ++ [.request patch]) = some a) (hcarries : a.Carries body) :
    (update g token id change : Talk Failure τ) (.up agency) j =
      ((Record.ofBytes body).mapError .unreadable, j ++ [.request patch]) := by
  rw [update_of_performed hurl (Gateway.perform_of_answered hpatch ha),
    Gateway.interpret_of_carries hcarries hbody]
  rcases (Record.ofBytes body : Except Record.Error τ) with e | value <;> rfl

theorem update_of_bodyless {a b : Answer} (hbody : body ≠ [])
    (ha : Link.answer? (.up agency) (j ++ [.request patch]) = some a) (hbodyless : a.IsBodyless)
    (hb : Link.answer? (.up agency) (j ++ [.request patch] ++ [.request patch.refetch]) = some b)
    (hcarries : b.Carries body) :
    (update g token id change : Talk Failure τ) (.up agency) j =
      ((Record.ofBytes body).mapError .unreadable,
        j ++ [.request patch] ++ [.request patch.refetch]) := by
  have hrefetch : g.perform .get url (some token) none (.up agency) (j ++ [.request patch]) =
      ((Gateway.interpret b : Except Failure (Gateway.Reply τ)),
        j ++ [.request patch] ++ [.request patch.refetch]) :=
    Gateway.perform_of_answered (Gateway.prepare_refetch hpatch) hb
  rw [update_of_performed hurl (Gateway.perform_of_answered hpatch ha),
    Gateway.interpret_eq_noContent_iff.2 hbodyless]
  change get g token id (.up agency) (j ++ [.request patch]) = _
  rw [get, hurl, Talk.ofExcept_ok_bind, Gateway.get,
    Talk.bind_ofExcept_apply hrefetch Gateway.Reply.intoContent,
    Gateway.interpret_of_carries hcarries hbody]
  rcases (Record.ofBytes body : Except Record.Error τ) with e | value <;> rfl

end

end Resource

/-! ### Talks with an update -/

/-- No request of a stage asks for an update. -/
def Stage.AsksNoUpdate (stage : Stage) : Prop :=
  ∀ r, stage.event? = some (.request r) → r.method ≠ .patch

theorem Gateway.asksNoUpdate_of_method {g : Gateway} {method : Method} {address : Except Failure String}
    {token : String} {body : Option Json} {stage : Stage}
    (hevent : stage.event? = (g.request? method address token body).map .request)
    (hmethod : method ≠ .patch) : stage.AsksNoUpdate := by
  intro r hr
  rw [hevent] at hr
  rwa [(request_of_event hr).1]

theorem TokenProvider.granting_asksNoUpdate (provider : TokenProvider) (client : Client)
    (grant : Grant) : ∀ stage ∈ provider.granting client grant, stage.AsksNoUpdate := by
  intro stage hstage r hr
  rw [(request_of_granting hstage hr).1]
  decide

theorem Follows.not_mem_of_asksNoUpdate {link : Link} {plan : List Stage} {j sent : Journal}
    {patch : Request} (h : Follows link plan j sent) (hplan : ∀ stage ∈ plan, stage.AsksNoUpdate)
    (hpatch : patch.method = .patch) : Event.request patch ∉ sent := by
  intro hmem
  obtain ⟨stage, hstage, hevent⟩ := h.exists_stage hmem
  exact hplan stage hstage patch hevent hpatch

theorem exists_between_of_notMem {γ : Type} {first rest earlier later : List γ} {c : γ}
    (h : first ++ rest = earlier ++ c :: later) (hc : c ∉ first) :
    ∃ between, earlier = first ++ between ∧ rest = between ++ c :: later := by
  rcases List.append_eq_append_iff.1 h with ⟨between, hearlier, hrest⟩ | ⟨between, rfl, hrest⟩
  · exact ⟨between, hearlier, hrest⟩
  · cases between with
    | nil => exact ⟨[], by simp, hrest.symm⟩
    | cons d between =>
      obtain ⟨rfl, -⟩ := List.cons.inj hrest
      exact absurd (List.mem_append_right earlier List.mem_cons_self) hc

namespace Talk

variable {ε ε' α β : Type}

/-- An update that a talk asks for and that is answered by a record is the last thing it asks for. If the
answer is postponed then the talk gives the same, and one request more is sent. -/
def TakesEither (x : Talk ε α) : Prop :=
  ∀ ⦃agency other : Agency⦄ ⦃j earlier later : Journal⦄ ⦃patch : Request⦄ ⦃body : List UInt8⦄,
    other.Postpones agency (j ++ earlier) patch body →
      (x (.up agency) j).2 = j ++ (earlier ++ .request patch :: later) →
        later = [] ∧ x (.up other) j =
          ((x (.up agency) j).1, j ++ (earlier ++ [.request patch, .request patch.refetch]))

theorem TakesEither.of_keepsTo {x : Talk ε α} {plan : List Stage} (h : x.KeepsTo plan)
    (hplan : ∀ stage ∈ plan, stage.AsksNoUpdate) : x.TakesEither := by
  intro agency other j earlier later patch body hpostpones hsent
  obtain ⟨sent, hall, hfollows⟩ := h (.up agency) j
  obtain rfl := List.append_cancel_left (hsent.symm.trans hall)
  exact absurd (List.mem_append_right earlier List.mem_cons_self)
    (hfollows.not_mem_of_asksNoUpdate hplan hpostpones.asks)

theorem TakesEither.bind {x : Talk ε α} {f : α → Talk ε β} {first rest : List Stage}
    (hlocal : x.IsLocal) (hx : x.KeepsTo first) (hfirst : ∀ stage ∈ first, stage.AsksNoUpdate)
    (hf : ∀ a, (f a).TakesEither) (hrest : ∀ a, (f a).KeepsTo rest) : (x >>= f).TakesEither := by
  intro agency other j earlier later patch body hpostpones hsent
  obtain ⟨sent, hk, hfollows⟩ := hx (.up agency) j
  have hnone : Event.request patch ∉ sent :=
    hfollows.not_mem_of_asksNoUpdate hfirst hpostpones.asks
  rcases h : x (.up agency) j with ⟨e | a, k⟩
  · rw [h] at hk
    rw [bind_of_error h, hk, List.append_cancel_left_eq] at hsent
    rw [hsent] at hnone
    exact absurd (List.mem_append_right earlier List.mem_cons_self) hnone
  · rw [h] at hk
    obtain rfl : k = j ++ sent := hk
    obtain ⟨behind, hbehind, -⟩ := hrest a (.up agency) (j ++ sent)
    rw [bind_of_ok h] at hsent ⊢
    -- the first part asks for no update, so this one is asked for behind it
    rw [hbehind, List.append_assoc, List.append_cancel_left_eq] at hsent
    obtain ⟨between, rfl, rfl⟩ := exists_between_of_notMem hsent hnone
    rw [← List.append_assoc] at hpostpones
    have hsame : x (.up other) j = (.ok a, j ++ sent) := by
      rw [hlocal.congr agency other j, h]
      rw [h]
      exact hpostpones.follows.of_prefix (List.prefix_append _ between)
    obtain ⟨hlast, hrun⟩ := hf a hpostpones hbehind
    rw [bind_of_ok hsame, hrun]
    simp [hlast]

end Talk

namespace Resource

variable {τ υ : Type} [Resource τ] [Record.Codec υ] {g : Gateway} {token id : String} {change : υ}
  {agency other : Agency} {j : Journal} {patch : Request} {body : List UInt8}

/-- An update that was put together gives the same with both agencies, and the one that postpones the
answer is asked for the item once. -/
theorem update_of_postpones (hpostpones : other.Postpones agency j patch body)
    (hpatch : (g.updating token (collection τ) id (Record.Codec.write change)).event? =
      some (.request patch)) :
    (g.fetching token (collection τ) id).event? = some (.request patch.refetch) ∧
      (update g token id change : Talk Failure τ) (.up agency) j =
        ((Record.ofBytes body).mapError .unreadable, j ++ [.request patch]) ∧
      (update g token id change : Talk Failure τ) (.up other) j =
        ((Record.ofBytes body).mapError .unreadable,
          j ++ [.request patch, .request patch.refetch]) := by
  obtain ⟨_, hr, ⟨⟩⟩ := Option.map_eq_some_iff.1 hpatch
  obtain ⟨url, hurl, hprepared⟩ := Gateway.request?_eq_some hr
  obtain ⟨-, -, hbody, ⟨a, ha, hcarries⟩, ⟨b, hb, hbodyless⟩, ⟨c, hc, hitem⟩⟩ := hpostpones
  refine ⟨?_, update_of_carries hurl hprepared hbody ha hcarries, ?_⟩
  · have hrefetch : g.request? .get (.ok url) token none = some patch.refetch :=
      Gateway.request?_of_prepared (Gateway.prepare_refetch hprepared)
    rw [Gateway.fetching, hurl, hrefetch]
    rfl
  · rw [← List.singleton_append, ← List.append_assoc] at hc ⊢
    exact update_of_bodyless hurl hprepared hbody hb hbodyless hc hitem

theorem update_takesEither (g : Gateway) (token id : String) (change : υ) :
    (update g token id change : Talk Failure τ).TakesEither := by
  intro agency other j earlier later patch body hpostpones hsent
  obtain ⟨sent, hall, hfollows⟩ := update_keepsTo (τ := τ) g token id change (.up agency) j
  obtain rfl := List.append_cancel_left (hsent.symm.trans hall)
  rw [Gateway.revising] at hfollows
  cases earlier with
  | nil =>
    rw [List.append_nil] at hpostpones
    obtain ⟨-, hdirect, hbodyless⟩ := update_of_postpones hpostpones (follows_cons.1 hfollows).1
    rw [hdirect, List.append_cancel_left_eq] at hsent
    rw [hdirect, hbodyless]
    exact ⟨(List.cons.inj hsent).2.symm, rfl⟩
  | cons first earlier =>
    obtain ⟨-, -, hrest⟩ := follows_cons.1 hfollows
    have hfetching : (g.fetching token (collection τ) id).AsksNoUpdate :=
      Gateway.asksNoUpdate_of_method rfl (by decide)
    exact absurd (List.mem_append_right earlier List.mem_cons_self)
      (hrest.not_mem_of_asksNoUpdate (List.forall_mem_singleton.2 hfetching) hpostpones.asks)

end Resource

/-! ### Operations -/

namespace Service

variable (s : Service)

theorem commitAndUpdate_takesEither {τ υ : Type} [Resource τ] [Record.Codec υ] (token url id : String)
    (change : υ) : (s.commitAndUpdate token url id change : Talk Failure τ).TakesEither := by
  rw [commitAndUpdate]
  refine Talk.TakesEither.bind (Invitation.isLocal_commit _ _ _)
    (Invitation.submitForPreview_performs _ _ ⟨url, false⟩).keepsTo ?_
    (fun _ => Resource.update_takesEither _ _ _ _) fun _ => Resource.update_keepsTo _ _ _ _
  exact List.forall_mem_singleton.2 (Gateway.asksNoUpdate_of_method rfl (by decide))

theorem finding_takesEither {ε α : Type} {wrong : ε → Mishap} {right : α → Finding} {x : Talk ε α}
    (h : x.TakesEither) : (finding wrong right x).TakesEither := by
  intro agency other j earlier later patch body hpostpones hsent
  obtain ⟨hlast, hrun⟩ := h hpostpones hsent
  refine ⟨hlast, ?_⟩
  rw [finding, hrun]
  rfl

theorem inquire_takesEither (w : Wallet) (operation : Operation) :
    (s.inquire w operation).TakesEither := by
  cases operation with
  | preview url =>
    refine .of_keepsTo (s.inquire_keepsTo w (.preview url)) (List.forall_mem_singleton.2 ?_)
    exact Gateway.asksNoUpdate_of_method rfl (by decide)
  | actOnOffer offer action =>
    cases action with
    | accept => exact finding_takesEither (s.commitAndUpdate_takesEither _ _ _ _)
    | reject => exact finding_takesEither (Resource.update_takesEither _ _ _ _)
  | actOnProofRequest request action =>
    cases action with
    | generate => exact finding_takesEither (s.commitAndUpdate_takesEither _ _ _ _)
    | share => exact finding_takesEither (Resource.update_takesEither _ _ _ _)
    | reject => exact finding_takesEither (Resource.update_takesEither _ _ _ _)
  | shareProof id => exact finding_takesEither (Resource.update_takesEither _ _ _ _)
  | rejectProof id => exact finding_takesEither (Resource.update_takesEither _ _ _ _)
  | updateConnection id update => exact finding_takesEither (Resource.update_takesEither _ _ _ _)
  | deleteCredential id =>
    refine .of_keepsTo (s.inquire_keepsTo w (.deleteCredential id)) (List.forall_mem_singleton.2 ?_)
    exact Gateway.asksNoUpdate_of_method rfl (by decide)
  | refreshToken =>
    refine .of_keepsTo (s.inquire_keepsTo w .refreshToken) ?_
    rw [plan]
    cases w.token.refresh with
    | none => exact fun _ h => absurd h List.not_mem_nil
    | some old => exact s.provider.granting_asksNoUpdate w.client (.refresh old)
  | reload order =>
    refine .of_keepsTo (s.inquire_keepsTo w (.reload order)) ?_
    rw [plan, List.forall_mem_map]
    exact fun part _ => Gateway.asksNoUpdate_of_method rfl (by decide)

variable {agency other : Agency} {j earlier : Journal} {patch : Request} {body : List UInt8}

theorem Operation.conclude_journal (operation : Operation) (w : Wallet)
    (r : Except Mishap Finding × Journal) : (operation.conclude w r).2.2 = r.2 := by
  rcases r with ⟨_ | _, _⟩ <;> rfl

theorem Operation.conclude_congr (operation : Operation) (w : Wallet)
    (r : Except Mishap Finding × Journal) (k : Journal) :
    operation.conclude w (r.1, k) = ((operation.conclude w r).1, (operation.conclude w r).2.1, k) := by
  rcases r with ⟨_ | _, _⟩ <;> rfl

theorem perform_takesEither {operation : Operation} {w : Wallet} {later : Journal}
    (hpostpones : other.Postpones agency (j ++ earlier) patch body)
    (hsent : (s.perform operation (.up agency) w j).2.2 = j ++ (earlier ++ .request patch :: later)) :
    later = [] ∧ s.perform operation (.up other) w j =
      ((s.perform operation (.up agency) w j).1, (s.perform operation (.up agency) w j).2.1,
        j ++ (earlier ++ [.request patch, .request patch.refetch])) := by
  rw [perform_eq, Operation.conclude_journal] at hsent
  obtain ⟨hlast, hrun⟩ := s.inquire_takesEither w operation hpostpones hsent
  rw [perform_eq, perform_eq, hrun]
  exact ⟨hlast, Operation.conclude_congr ..⟩

/-- Let one agency answer an update by some bytes, and another one without a body and then the request
for the item by the same bytes. The update of a record of any kind gives what is read from those bytes
with either of them, and the request for the item is the only difference. So it is for every operation
that asks for the update: it ends alike, with the same wallet. -/
theorem perform_of_postpones (hpostpones : other.Postpones agency (j ++ earlier) patch body) :
    (∀ (τ υ : Type) [Resource τ] [Record.Codec υ] (g : Gateway) (token id : String) (change : υ),
      (g.updating token (Resource.collection τ) id (Record.Codec.write change)).event? =
          some (.request patch) →
        (g.fetching token (Resource.collection τ) id).event? = some (.request patch.refetch) ∧
        (Resource.update g token id change : Talk Failure τ) (.up agency) (j ++ earlier) =
          ((Record.ofBytes body).mapError .unreadable, j ++ earlier ++ [.request patch]) ∧
        (Resource.update g token id change : Talk Failure τ) (.up other) (j ++ earlier) =
          ((Record.ofBytes body).mapError .unreadable,
            j ++ earlier ++ [.request patch, .request patch.refetch])) ∧
    ∀ (s : Service) (operation : Operation) (w : Wallet) (later : Journal),
      (s.perform operation (.up agency) w j).2.2 = j ++ (earlier ++ .request patch :: later) →
        later = [] ∧ s.perform operation (.up other) w j =
          ((s.perform operation (.up agency) w j).1, (s.perform operation (.up agency) w j).2.1,
            j ++ (earlier ++ [.request patch, .request patch.refetch])) :=
  ⟨fun _ _ _ _ _ _ _ _ hpatch => Resource.update_of_postpones hpostpones hpatch,
    fun s _ _ _ hsent => s.perform_takesEither hpostpones hsent⟩

end Service

end CredentialWallet

namespace CredentialWallet.Sample

def acceptedBody : List UInt8 := (credentialText "c" "accepted").flatMap Text.utf8

/-- An agency that commits the offer and answers the update by the credential. -/
def prompt : Agency := turns [answering previewText, ⟨200, none, acceptedBody⟩]

/-- An agency that commits the offer as well, but has to be asked for the credential. -/
def reticent : Agency := turns [answering previewText, noContent, ⟨200, none, acceptedBody⟩]

theorem reticent_postpones :
    reticent.Postpones prompt [.request commitment] acceptance acceptedBody where
  asks := rfl
  follows := by
    intro i hi
    rcases List.prefix_cons_iff.1 hi with rfl | ⟨t, rfl, ht⟩
    · rfl
    · obtain rfl := List.prefix_nil.1 ht
      rfl
  body_ne_nil := by decide +kernel
  direct := ⟨_, rfl, by decide, by decide, rfl⟩
  bodyless := ⟨_, rfl, .inl rfl⟩
  item := ⟨_, rfl, by decide, by decide, rfl⟩

end CredentialWallet.Sample

namespace CredentialWallet.Service

open Sample

/-- An offer is accepted with an agency that answers the update by the credential, and likewise with one
that answers it by nothing. -/
theorem perform_of_postpones_accept :
    reticent.Postpones prompt [.request commitment] acceptance acceptedBody ∧
      service.perform (.actOnOffer offer .accept) (.up prompt) wallet [] =
        (.ok (.credential (credential "c" .accepted)), { wallet with invitations := [] },
          [.request commitment, .request acceptance]) ∧
      service.perform (.actOnOffer offer .accept) (.up reticent) wallet [] =
        (.ok (.credential (credential "c" .accepted)), { wallet with invitations := [] },
          [.request commitment, .request acceptance, .request acceptance.refetch]) := by
  have hprompt : service.perform (.actOnOffer offer .accept) (.up prompt) wallet [] =
      (.ok (.credential (credential "c" .accepted)), { wallet with invitations := [] },
        [.request commitment, .request acceptance]) := by decide +kernel
  have hpostpones : reticent.Postpones prompt ([] ++ [.request commitment]) acceptance acceptedBody :=
    reticent_postpones
  obtain ⟨-, hreticent⟩ := (perform_of_postpones hpostpones).2 service (.actOnOffer offer .accept)
    wallet [] (by rw [hprompt]; rfl)
  refine ⟨hpostpones, hprompt, ?_⟩
  rw [hreticent, hprompt]
  rfl

end CredentialWallet.Service
