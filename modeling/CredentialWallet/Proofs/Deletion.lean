import CredentialWallet.Proofs.Delivery
import CredentialWallet.Proofs.StoredOnly
/-!
# What counts as deleted

A record counts as deleted if the answer to its deletion can be sorted into a reply, whatever reply that
is. That takes in a redirect, by which nothing was deleted, and leaves out a success with a body that is
no JSON, although nobody looks at the body. With every other answer the deletion fails.
-/

namespace CredentialWallet

open Http (Answer Request)

namespace Http.Answer

/-- The answer says where to go instead. -/
def Redirects (a : Answer) : Prop :=
  Gateway.isRedirect a.status = true ∧ ∃ location, a.readableLocation? = some location

/-- The answer is a success, and its body, if it may have one and has one, is JSON. -/
def SucceedsLegibly (a : Answer) : Prop :=
  a.isSuccess = true ∧ (a.status = 204 ∨ a.body = [] ∨ ∃ value : Json, Record.ofBytes a.body = .ok value)

/-- What counts as deleted where this is the answer. -/
def PassesForDeleted (a : Answer) : Prop := a.SucceedsLegibly ∨ a.Redirects

end Http.Answer

namespace Gateway

theorem succeedsLegibly_iff {a : Answer} :
    a.SucceedsLegibly ↔ a.IsBodyless ∨ ∃ value : Json, a.Holds value := by
  constructor
  · rintro ⟨hsuccess, h204 | hempty | ⟨value, hvalue⟩⟩
    · exact .inl (.inl h204)
    · exact .inl (.inr ⟨hsuccess, hempty⟩)
    · by_cases h204 : a.status = 204
      · exact .inl (.inl h204)
      by_cases hempty : a.body = []
      · exact .inl (.inr ⟨hsuccess, hempty⟩)
      · exact .inr ⟨value, hsuccess, h204, hempty, hvalue⟩
  · rintro ((h204 | ⟨hsuccess, hempty⟩) | ⟨value, hsuccess, -, -, hvalue⟩)
    · exact ⟨by simp [Answer.isSuccess, h204], .inl h204⟩
    · exact ⟨hsuccess, .inr (.inl hempty)⟩
    · exact ⟨hsuccess, .inr (.inr ⟨value, hvalue⟩)⟩

theorem exists_interpret_eq_ok_iff {a : Answer} :
    (∃ reply : Reply Json, interpret a = .ok reply) ↔ a.PassesForDeleted := by
  rw [Answer.PassesForDeleted, succeedsLegibly_iff]
  constructor
  · rintro ⟨reply, hreply⟩
    cases reply with
    | noContent => exact .inl (.inl (interpret_eq_noContent_iff.1 hreply))
    | content value => exact .inl (.inr ⟨value, interpret_eq_content_iff.1 hreply⟩)
    | redirect location =>
      obtain ⟨hredirect, hlocation⟩ := interpret_eq_redirect_iff.1 hreply
      exact .inr ⟨hredirect, location, hlocation⟩
  · rintro ((hbodyless | ⟨value, hholds⟩) | ⟨hredirect, location, hlocation⟩)
    · exact ⟨.noContent, interpret_eq_noContent_iff.2 hbodyless⟩
    · exact ⟨.content value, interpret_eq_content_iff.2 hholds⟩
    · exact ⟨.redirect location, interpret_eq_redirect_iff.2 ⟨hredirect, hlocation⟩⟩

end Gateway

/-! ### Deleting a record -/

/-- The last request of a journal was answered, and the answer passes for a deletion. -/
def Link.PassesForDeleted (link : Link) (k : Journal) : Prop :=
  ∃ a, link.answer? k = some a ∧ a.PassesForDeleted

namespace Resource

variable (τ : Type) [Resource τ] (g : Gateway) (token id : String)

/-- A deletion succeeds exactly if its answer passes. -/
theorem delete_restsOn : (delete g token τ id).RestsOn fun a _ => a.PassesForDeleted := by
  rw [delete]
  refine .ofExcept_bind fun url => ?_
  refine ((g.perform_restsOn (α := Json) .delete url (some token) none).bind_pure
    fun _ => ()).congr fun a _ => ?_
  rw [← Gateway.exists_interpret_eq_ok_iff]
  simp only [and_true]

variable {τ g token id} {link : Link} {j : Journal} {r : Request}

theorem delete_eq_ok_iff (hsent : (delete g token τ id link j).2 = j ++ [.request r]) :
    (delete g token τ id link j).1 = .ok () ↔ link.PassesForDeleted (j ++ [.request r]) :=
  (delete_restsOn τ g token id).eq_ok_iff hsent

end Resource

/-! ### Deleting a credential -/

namespace Service

variable {s : Service} {link : Link} {w : Wallet} {id : String} {j k : Journal} {r : Request}

theorem perform_deleteCredential_of_ok
    (h : Resource.delete s.gateway w.accessToken Credential id link j = (.ok (), k)) :
    s.perform (.deleteCredential id) link w j = (.ok .done, w.removeCredential id, k) := by
  have hasked : s.inquire w (.deleteCredential id) link j = (.ok .deleted, k) := finding_of_ok h
  exact perform_of_ok hasked

theorem perform_deleteCredential_of_error {e : Failure}
    (h : Resource.delete s.gateway w.accessToken Credential id link j = (.error e, k)) :
    s.perform (.deleteCredential id) link w j = (.error (.failure e), w, k) := by
  have hasked : s.inquire w (.deleteCredential id) link j = (.error (.failure e), k) :=
    finding_of_error h
  exact perform_of_error hasked

/-- A credential whose deletion was sent goes from the wallet exactly if the answer passes, and with
every other answer the deletion fails and the wallet stays as it was. Records of any other kind count
as deleted by the same answers. -/
theorem perform_deleteCredential_iff
    (hsent : (s.perform (.deleteCredential id) link w j).2.2 = j ++ [.request r]) :
    (s.perform (.deleteCredential id) link w j =
        (.ok .done, w.removeCredential id, j ++ [.request r]) ↔
      link.PassesForDeleted (j ++ [.request r])) ∧
    (¬ link.PassesForDeleted (j ++ [.request r]) → ∃ e,
      s.perform (.deleteCredential id) link w j = (.error e, w, j ++ [.request r])) ∧
    ∀ (τ : Type) [Resource τ] (token other : String) (i : Journal) (q : Request),
      (Resource.delete s.gateway token τ other link i).2 = i ++ [.request q] →
        ((Resource.delete s.gateway token τ other link i).1 = .ok () ↔
          link.PassesForDeleted (i ++ [.request q])) := by
  have hothers : ∀ (τ : Type) [Resource τ] (token other : String) (i : Journal) (q : Request),
      (Resource.delete s.gateway token τ other link i).2 = i ++ [.request q] →
        ((Resource.delete s.gateway token τ other link i).1 = .ok () ↔
          link.PassesForDeleted (i ++ [.request q])) :=
    fun τ _ token other i q hother => Resource.delete_eq_ok_iff hother
  have hiff := hothers Credential w.accessToken id j r
  rcases hdelete : Resource.delete s.gateway w.accessToken Credential id link j with ⟨e | ⟨⟩, i⟩
  · have hperform := perform_deleteCredential_of_error hdelete
    rw [hperform] at hsent ⊢
    subst hsent
    have hnot : ¬ link.PassesForDeleted (j ++ [.request r]) := fun h => by
      rw [hdelete] at hiff
      cases (hiff rfl).2 h
    exact ⟨⟨nofun, fun h => absurd h hnot⟩, fun _ => ⟨.failure e, rfl⟩, hothers⟩
  · have hperform := perform_deleteCredential_of_ok hdelete
    rw [hperform] at hsent ⊢
    subst hsent
    have hpasses : link.PassesForDeleted (j ++ [.request r]) := by
      rw [hdelete] at hiff
      exact (hiff rfl).1 rfl
    exact ⟨⟨fun _ => hpasses, fun _ => rfl⟩, fun h => absurd hpasses h, hothers⟩

end Service

end CredentialWallet

namespace CredentialWallet.Sample

/-- A success that says in plain words that something is gone. -/
def gone : Http.Answer := answering ["gone"]

/-- A success without a word. -/
def noContent : Http.Answer := ⟨204, none, []⟩

/-- A redirect to the place where the answer is given. -/
def elsewhere : Http.Answer := ⟨307, some "http://[::1]/elsewhere", []⟩

/-- What is sent to delete the one credential of the opened wallet. -/
def deletion : Http.Request where
  method := .delete
  url := {
    scheme := "http"
    authority := some ⟨[], [], "[::1]".toList, none⟩
    route := .segments (["diagency", "v1.0", "diagency", "credentials", "2"].map String.toList)
    query := none
    fragment := none }
  authorization := ["Bearer access"]
  userAgent := "client"
  body := none

end CredentialWallet.Sample

namespace CredentialWallet.Service

open Sample

/-- The credential of the opened wallet is deleted, since the deletion was answered by nothing. -/
theorem perform_deleteCredential_iff_noContent :
    (service.perform (.deleteCredential "2") (.up fun _ => some noContent) opened []).2.2 =
        [.request deletion] ∧
      service.perform (.deleteCredential "2") (.up fun _ => some noContent) opened [] =
        (.ok .done, { opened with credentials := [] }, [.request deletion]) := by
  have hsent : (service.perform (.deleteCredential "2") (.up fun _ => some noContent) opened []).2.2 =
      [.request deletion] := by decide +kernel
  refine ⟨hsent, (perform_deleteCredential_iff hsent).1.2 ⟨noContent, rfl, .inl ⟨rfl, .inl rfl⟩⟩⟩

/-- A redirect is no success, and the credential goes; a success that is no JSON leaves it there. -/
theorem perform_deleteCredential_not_iff_isSuccess :
    (elsewhere.isSuccess = false ∧
      service.perform (.deleteCredential "2") (.up fun _ => some elsewhere) opened [] =
        (.ok .done, { opened with credentials := [] }, [.request deletion])) ∧
    (gone.isSuccess = true ∧
      service.perform (.deleteCredential "2") (.up fun _ => some gone) opened [] =
        (.error (.failure (.unreadable (.fault .expectedValue))), opened, [.request deletion])) := by
  decide +kernel

end CredentialWallet.Service
