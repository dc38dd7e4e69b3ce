import CredentialWallet.Proofs.Except
import CredentialWallet.Talk
/-!
# Plans of talks

A plan says what a talk may leave in the journal: one event a stage, in order, none twice. The talk may
stop behind any stage, and goes on to the next one only if the answer to the last event lets it. Plans
compose like talks do: a step that performs the first stage, followed by a talk that keeps to the rest,
keeps to the whole (`Performs.bind`).
-/

namespace CredentialWallet

/-- What the agency answers to the last request of a journal. -/
def Link.answer? (link : Link) (j : Journal) : Option Http.Answer :=
  match link with
  | .down => none
  | .up agency => agency j.requests

/-- An event that may take place, if it can be put together at all, and the answers to it that let a
talk go on. -/
structure Stage where
  event? : Option Event
  leadsOn : Option Http.Answer → Prop

/-- The events that come after a journal follow a plan. -/
def Follows (link : Link) : List Stage → Journal → Journal → Prop
  | _, _, [] => True
  | [], _, _ :: _ => False
  | stage :: plan, j, event :: later =>
    stage.event? = some event ∧
      (later ≠ [] → stage.leadsOn (link.answer? (j ++ [event]))) ∧
      Follows link plan (j ++ [event]) later

@[simp] theorem follows_nil (link : Link) (plan : List Stage) (j : Journal) :
    Follows link plan j [] := by
  cases plan <;> trivial

@[simp] theorem follows_no_plan {link : Link} {j sent : Journal} :
    Follows link [] j sent ↔ sent = [] := by
  cases sent <;> simp [Follows]

theorem follows_cons {link : Link} {stage : Stage} {plan : List Stage} {j later : Journal}
    {event : Event} :
    Follows link (stage :: plan) j (event :: later) ↔
      stage.event? = some event ∧
        (later ≠ [] → stage.leadsOn (link.answer? (j ++ [event]))) ∧
        Follows link plan (j ++ [event]) later := Iff.rfl

theorem Follows.exists_stage {link : Link} {plan : List Stage} {j sent : Journal} {event : Event}
    (h : Follows link plan j sent) (hevent : event ∈ sent) :
    ∃ stage ∈ plan, stage.event? = some event := by
  induction sent generalizing plan j with
  | nil => cases hevent
  | cons first later ih =>
    cases plan with
    | nil => cases follows_no_plan.1 h
    | cons stage plan =>
      obtain ⟨hstage, _, hlater⟩ := follows_cons.1 h
      rcases List.mem_cons.1 hevent with rfl | hevent
      · exact ⟨stage, List.mem_cons_self, hstage⟩
      · obtain ⟨other, hmem, hother⟩ := ih hlater hevent
        exact ⟨other, List.mem_cons_of_mem stage hmem, hother⟩

namespace Talk

variable {ε ε' α β : Type}

/-- All that a talk leaves in the journal follows a plan. -/
def KeepsTo (x : Talk ε α) (plan : List Stage) : Prop :=
  ∀ link j, ∃ sent, (x link j).2 = j ++ sent ∧ Follows link plan j sent

/-- A talk fails with nothing in the journal, or leaves one event there. If it succeeds then what it
gives stands in a relation to the answer. -/
def Performs (x : Talk ε α) (event? : Option Event) (brings : α → Option Http.Answer → Prop) : Prop :=
  ∀ link j,
    (∃ e, x link j = (.error e, j)) ∨
      ∃ event r, event? = some event ∧ x link j = (r, j ++ [event]) ∧
        ∀ a, r = .ok a → brings a (link.answer? (j ++ [event]))

/-! ### Talks that leave nothing in the journal -/

theorem keepsTo_ofExcept (r : Except ε α) (plan : List Stage) : (ofExcept r).KeepsTo plan :=
  fun _ _ => ⟨[], (List.append_nil _).symm, follows_nil ..⟩

theorem keepsTo_fail (e : ε) (plan : List Stage) : (fail e : Talk ε α).KeepsTo plan :=
  fun _ _ => ⟨[], (List.append_nil _).symm, follows_nil ..⟩

theorem keepsTo_pure (a : α) (plan : List Stage) : (pure a : Talk ε α).KeepsTo plan :=
  fun _ _ => ⟨[], (List.append_nil _).symm, follows_nil ..⟩

theorem keepsTo_ofExcept_bind {r : Except ε α} {f : α → Talk ε β} {plan : List Stage}
    (hf : ∀ a, r = .ok a → (f a).KeepsTo plan) : (ofExcept r >>= f).KeepsTo plan := by
  cases r with
  | error e => exact keepsTo_fail e plan
  | ok a => exact hf a rfl

theorem KeepsTo.bind_pure {x : Talk ε α} {plan : List Stage} (h : x.KeepsTo plan) (f : α → β) :
    (x >>= fun a => pure (f a)).KeepsTo plan := by
  intro link j
  obtain ⟨sent, hsent, hfollows⟩ := h link j
  refine ⟨sent, ?_, hfollows⟩
  rcases hx : x link j with ⟨_ | a, k⟩
  · rw [bind_of_error hx, ← hsent, hx]
  · rw [bind_of_ok hx, ← hsent, hx]
    rfl

theorem KeepsTo.isPrefix {x : Talk ε α} {plan : List Stage} (h : x.KeepsTo plan) {link : Link}
    {j k : Journal} {r : Except ε α} (hx : x link j = (r, k)) : j <+: k := by
  obtain ⟨sent, hsent, _⟩ := h link j
  rw [hx] at hsent
  exact ⟨sent, hsent.symm⟩

/-! ### One event -/

theorem performs_note (client : Client) (grant : Grant) :
    (note client grant : Talk ε _).Performs (some (.grant client grant)) fun _ _ => True :=
  fun _ _ => .inr ⟨.grant client grant, _, rfl, rfl, fun _ _ => trivial⟩

/-- A request is in the journal once it has been brought to the agency, answered or not. -/
theorem performs_deliver (r : Http.Request) :
    (deliver r).Performs (some (.request r)) fun a answer => ∀ b, a = .ok b → answer = some b := by
  intro link j
  cases link with
  | down => exact .inl ⟨_, rfl⟩
  | up agency =>
    right
    rcases h : agency (Journal.requests (j ++ [.request r])) with _ | answer
    · refine ⟨.request r, _, rfl, by simp only [deliver, h]; rfl, ?_⟩
      rintro _ ⟨⟩ b ⟨⟩
    · refine ⟨.request r, _, rfl, by simp only [deliver, h]; rfl, ?_⟩
      rintro _ ⟨⟩ b ⟨⟩
      exact h

namespace Performs

variable {x : Talk ε α} {event? : Option Event} {brings : α → Option Http.Answer → Prop}

theorem mono {brings' : α → Option Http.Answer → Prop} (h : x.Performs event? brings)
    (himp : ∀ a answer, brings a answer → brings' a answer) : x.Performs event? brings' := by
  intro link j
  rcases h link j with hfail | ⟨event, r, hevent, hx, hbrings⟩
  · exact .inl hfail
  · exact .inr ⟨event, r, hevent, hx, fun a ha => himp a _ (hbrings a ha)⟩

theorem mapError (h : x.Performs event? brings) (f : ε → ε') :
    (x.mapError f).Performs event? brings := by
  intro link j
  rcases h link j with ⟨e, hx⟩ | ⟨event, r, hevent, hx, hbrings⟩
  · exact .inl ⟨f e, by simp only [Talk.mapError, hx]; rfl⟩
  · refine .inr ⟨event, r.mapError f, hevent, by simp only [Talk.mapError, hx], fun a ha => ?_⟩
    exact hbrings a (mapError_eq_ok_iff.1 ha)

theorem ofExcept_bind {γ : Type} {r : Except ε γ} {event : γ → Event} {f : γ → Talk ε α}
    (hf : ∀ c, (f c).Performs (some (event c)) brings) :
    (ofExcept r >>= f).Performs (r.toOption.map event) brings := by
  cases r with
  | error e => exact fun _ _ => .inl ⟨e, rfl⟩
  | ok c => exact hf c

theorem bind_ofExcept (h : x.Performs event? brings) (f : α → Except ε β) :
    (x >>= fun a => ofExcept (f a)).Performs event? fun b answer =>
      ∃ a, brings a answer ∧ f a = .ok b := by
  intro link j
  rcases h link j with ⟨e, hx⟩ | ⟨event, r, hevent, hx, hbrings⟩
  · exact .inl ⟨e, bind_of_error hx _⟩
  · right
    cases r with
    | error e => exact ⟨event, .error e, hevent, bind_of_error hx _, fun _ hb => nomatch hb⟩
    | ok a => exact ⟨event, f a, hevent, bind_of_ok hx _, fun b hb => ⟨a, hbrings a rfl, hb⟩⟩

/-- A step and the talk behind it: the talk is over without another event, or the answer to the step
led on and the talk keeps to the rest of the plan. -/
theorem bind {stage : Stage} {plan : List Stage} {f : α → Talk ε β}
    (h : x.Performs stage.event? brings)
    (hf : ∀ a, (f a).KeepsTo [] ∨
      (∀ answer, brings a answer → stage.leadsOn answer) ∧ (f a).KeepsTo plan) :
    (x >>= f).KeepsTo (stage :: plan) := by
  intro link j
  rcases h link j with ⟨e, hx⟩ | ⟨event, r, hevent, hx, hbrings⟩
  · exact ⟨[], by rw [bind_of_error hx, List.append_nil], follows_nil ..⟩
  · cases r with
    | error e =>
      exact ⟨[event], by rw [bind_of_error hx], hevent, fun hne => absurd rfl hne, follows_nil ..⟩
    | ok a =>
      rcases hf a with hover | ⟨hleads, hrest⟩
      · obtain ⟨sent, hsent, hfollows⟩ := hover link (j ++ [event])
        obtain rfl := follows_no_plan.1 hfollows
        refine ⟨[event], ?_, hevent, fun hne => absurd rfl hne, follows_nil ..⟩
        rw [bind_of_ok hx, hsent, List.append_nil]
      · obtain ⟨sent, hsent, hfollows⟩ := hrest link (j ++ [event])
        refine ⟨event :: sent, ?_, hevent, fun _ => hleads _ (hbrings a rfl), hfollows⟩
        rw [bind_of_ok hx, hsent, List.append_assoc, List.singleton_append]

theorem keepsTo {stage : Stage} (h : x.Performs stage.event? brings) : x.KeepsTo [stage] := by
  have hbind : (x >>= pure).KeepsTo [stage] := h.bind fun a => .inl (keepsTo_pure a [])
  rwa [bind_pure] at hbind

end Performs

end Talk

end CredentialWallet
