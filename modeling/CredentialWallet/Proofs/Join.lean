import Mathlib.Data.List.Induction
import Mathlib.Logic.Function.Basic
import CredentialWallet.Proofs.Fetching
/-!
# Waiting for five answers

A join waits for the answers to all parts of a wallet, one at a time. It is done with the first answer
that is no good, or else with the last one. Until then it has collected exactly what arrived, so what it
comes to depends on the order of the answers only through the first failure.
-/

namespace CredentialWallet.Holdings

open Http (Answer Transport)

/-! ### Joins -/

/-- What an answer for a part holds if it is good. -/
abbrev Part.Content : Part → Type
  | agent => Agent
  | connections => List Connection
  | invitations => List Invitation
  | credentials => List Credential
  | verifications => List Verification

def Part.read : (part : Part) → Except Transport Answer → Except Failure part.Content
  | agent => contentOf (α := Agent)
  | connections => itemsOf (α := Connection)
  | invitations => itemsOf (α := Invitation)
  | credentials => itemsOf (α := Credential)
  | verifications => itemsOf (α := Verification)

/-- What is received for each part. -/
abbrev Answers := Part → Except Transport Answer

/-- What has arrived so far. -/
abbrev Collected := (part : Part) → Option part.Content

/-- The holdings, once nothing is missing. -/
def Collected.holdings? (c : Collected) : Option Holdings := do
  let agent : Agent ← c .agent
  let connections : List Connection ← c .connections
  let invitations : List Invitation ← c .invitations
  let credentials : List Credential ← c .credentials
  let verifications : List Verification ← c .verifications
  return {
    agent, connections, invitations, verifications
    credentials := credentials.filter Credential.isStored }

inductive Join
  | waiting (collected : Collected)
  | done (result : Except OpeningFailure Holdings)

namespace Join

def start : Join := waiting fun _ => none

/-- What becomes of a join when the answer for a part arrives. -/
def arrive (answers : Answers) : Join → Part → Join
  | done result, _ => done result
  | waiting collected, part =>
    match part.read (answers part) with
    | .error e => done (.error (.notFetched part.name e))
    | .ok content =>
      let collected : Collected := Function.update collected part (some content)
      match collected.holdings? with
      | some h => done (.ok h)
      | none => waiting collected

/-- What has arrived is what the answers hold. -/
def collectedBy (answers : Answers) (before : List Part) : Collected := fun part =>
  if part ∈ before then (part.read (answers part)).toOption else none

variable {answers : Answers}

theorem foldl_arrive_done (result : Except OpeningFailure Holdings) (later : List Part) :
    later.foldl (arrive answers) (done result) = done result := by
  induction later with
  | nil => rfl
  | cons part rest ih => exact ih

/-! ### Collecting -/

theorem update_collectedBy {before : List Part} {part : Part} {content : part.Content}
    (hread : part.read (answers part) = .ok content) :
    Function.update (collectedBy answers before) part (some content) =
      collectedBy answers (before ++ [part]) := by
  funext other
  by_cases hother : other = part
  · subst hother
    simp [collectedBy, hread, Except.toOption]
  · simp [collectedBy, hother]

theorem holdings?_eq_none {c : Collected} {part : Part} (h : c part = none) :
    c.holdings? = none := by
  cases part <;> simp [Collected.holdings?, h]

/-- While a part is missing and no failure has arrived, the join waits with what has arrived. -/
theorem foldl_arrive_waiting {before : List Part} {missing : Part} (hmissing : missing ∉ before)
    (hgood : ∀ part ∈ before, ∃ content, part.read (answers part) = .ok content) :
    before.foldl (arrive answers) start = waiting (collectedBy answers before) := by
  -- on what arrived, from the end: the part that is missing keeps the last arrival from being the end
  induction before using List.reverseRecOn with
  | nil => rfl
  | append_singleton earlier part ih =>
    have hearlier : missing ∉ earlier := fun h => hmissing (List.mem_append_left _ h)
    obtain ⟨content, hread⟩ := hgood part (by simp)
    have hnone : (collectedBy answers (earlier ++ [part])).holdings? = none :=
      holdings?_eq_none (by rw [collectedBy, if_neg hmissing])
    rw [List.foldl_append, ih hearlier fun other hother => hgood other (List.mem_append_left _ hother)]
    simp only [List.foldl_cons, List.foldl_nil, arrive, hread, update_collectedBy hread, hnone]

theorem foldl_arrive_failed {before later : List Part} {part : Part} {e : Failure}
    (hfresh : part ∉ before)
    (hgood : ∀ earlier ∈ before, ∃ content, earlier.read (answers earlier) = .ok content)
    (hbad : part.read (answers part) = .error e) :
    (before ++ part :: later).foldl (arrive answers) start =
      done (.error (.notFetched part.name e)) := by
  have harrive : arrive answers (waiting (collectedBy answers before)) part =
      done (.error (.notFetched part.name e)) := by
    simp only [arrive, hbad]
  rw [List.foldl_append, foldl_arrive_waiting hfresh hgood, List.foldl_cons, harrive]
  exact foldl_arrive_done _ later

end Join

/-! ### What a join comes to -/

/-- Holdings are what five good answers hold; of the credentials they are the stored ones. -/
structure Answers.Hold (answers : Answers) (h : Holdings) : Prop where
  agent : ∃ a, answers .agent = .ok a ∧ a.Holds h.agent
  connections : ∃ a, answers .connections = .ok a ∧
    ∃ listing : Listing Connection, a.Holds listing ∧ listing.items = h.connections
  invitations : ∃ a, answers .invitations = .ok a ∧
    ∃ listing : Listing Invitation, a.Holds listing ∧ listing.items = h.invitations
  credentials : ∃ a, answers .credentials = .ok a ∧
    ∃ listing : Listing Credential, a.Holds listing ∧
      listing.items.filter Credential.isStored = h.credentials
  verifications : ∃ a, answers .verifications = .ok a ∧
    ∃ listing : Listing Verification, a.Holds listing ∧ listing.items = h.verifications

/-- In this order the answer for this part is the first that is no good, and this is wrong with it. -/
def Answers.FailsFirst (answers : Answers) (order : List Part) (part : Part) (e : Failure) : Prop :=
  ∃ before later, order = before ++ part :: later ∧
    (∀ earlier ∈ before, ∃ content, earlier.read (answers earlier) = .ok content) ∧
    part.read (answers part) = .error e

/-- A join of answers in an order comes to a result: to what the answers hold if all are good, and
else to the failure that arrives first. -/
structure Settled (answers : Answers) (order : List Part)
    (result : Except OpeningFailure Holdings) : Prop where
  joined : order.foldl (Join.arrive answers) .start = .done result
  ok_iff : ∀ h, result = .ok h ↔ answers.Hold h
  error_iff : ∀ e, result = .error e ↔
    ∃ part cause, answers.FailsFirst order part cause ∧ e = .notFetched part.name cause

/-- What the five answers hold, each by itself. -/
def Answers.fetched (answers : Answers) : Fetched where
  agent := contentOf (answers .agent)
  connections := itemsOf (answers .connections)
  invitations := itemsOf (answers .invitations)
  credentials := (itemsOf (answers .credentials)).map (List.filter Credential.isStored)
  verifications := itemsOf (answers .verifications)

theorem contentOf_eq_ok_iff {α : Type} [Record.Codec α] {x : Except Transport Answer} {value : α} :
    contentOf x = .ok value ↔ ∃ a, x = .ok a ∧ a.Holds value := by
  refine ⟨contentOf_eq_ok, ?_⟩
  rintro ⟨a, rfl, hholds⟩
  rw [contentOf]
  exact bind_eq_ok_iff.2 ⟨a, rfl,
    bind_eq_ok_iff.2 ⟨.content value, Gateway.interpret_eq_content_iff.2 hholds, rfl⟩⟩

theorem itemsOf_eq_ok_iff {τ : Type} [Record.Codec τ] {x : Except Transport Answer} {items : List τ} :
    itemsOf x = .ok items ↔
      ∃ a, x = .ok a ∧ ∃ listing : Listing τ, a.Holds listing ∧ listing.items = items := by
  refine ⟨itemsOf_eq_ok, ?_⟩
  rintro ⟨a, hx, listing, hholds, rfl⟩
  rw [itemsOf]
  exact bind_eq_ok_iff.2 ⟨listing, contentOf_eq_ok_iff.2 ⟨a, hx, hholds⟩, rfl⟩

namespace Fetched

theorem errorOf_eq_some_iff {α : Type} {x : Except Failure α} {e : Failure} :
    failure?.errorOf x = some e ↔ x = .error e := by
  cases x <;> simp [failure?.errorOf]

theorem errorOf_eq_none_iff {α : Type} {x : Except Failure α} :
    failure?.errorOf x = none ↔ ∃ a, x = .ok a := by
  cases x <;> simp [failure?.errorOf]

theorem errorOf_map {α β : Type} (f : α → β) (x : Except Failure α) :
    failure?.errorOf (x.map f) = failure?.errorOf x := by
  cases x <;> rfl

theorem holdings_eq_ok_iff {f : Fetched} {h : Holdings} :
    f.holdings = .ok h ↔
      f.agent = .ok h.agent ∧ f.connections = .ok h.connections ∧
        f.invitations = .ok h.invitations ∧ f.credentials = .ok h.credentials ∧
        f.verifications = .ok h.verifications := by
  refine ⟨holdings_eq_ok, ?_⟩
  rintro ⟨hagent, hconnections, hinvitations, hcredentials, hverifications⟩
  rw [holdings, hagent, hconnections, hinvitations, hcredentials, hverifications]
  rfl

theorem arriving_of_holdings {f : Fetched} {h : Holdings} (hf : f.holdings = .ok h)
    (order : List Part) : f.arriving order = .ok h := by
  obtain ⟨hagent, hconnections, hinvitations, hcredentials, hverifications⟩ := holdings_eq_ok hf
  have hnone : order.findSome? (fun part =>
      (f.failure? part).map (OpeningFailure.notFetched part.name)) = none := by
    refine List.findSome?_eq_none_iff.2 fun part _ => ?_
    cases part <;>
      simp [failure?, failure?.errorOf, hagent, hconnections, hinvitations, hcredentials,
        hverifications]
  rw [arriving, hnone]
  exact hf

end Fetched

theorem Part.mem_all (part : Part) : part ∈ Part.all := by
  cases part <;> decide

theorem Part.nodup_all : Part.all.Nodup := by
  decide

namespace Answers

variable {answers : Answers} {order : List Part}

theorem failure?_fetched (part : Part) :
    answers.fetched.failure? part = Fetched.failure?.errorOf (part.read (answers part)) := by
  cases part with
  | credentials => exact Fetched.errorOf_map _ _
  | _ => rfl

theorem hold_iff {h : Holdings} : answers.Hold h ↔ answers.fetched.holdings = .ok h := by
  simp only [Fetched.holdings_eq_ok_iff, fetched, contentOf_eq_ok_iff, itemsOf_eq_ok_iff, map_eq_ok_iff]
  constructor
  · rintro ⟨hagent, hconnections, hinvitations, ⟨a, ha, listing, hlisting, hstored⟩, hverifications⟩
    exact ⟨hagent, hconnections, hinvitations, ⟨listing.items, ⟨a, ha, listing, hlisting, rfl⟩, hstored⟩,
      hverifications⟩
  · rintro ⟨hagent, hconnections, hinvitations, ⟨_, ⟨a, ha, listing, hlisting, rfl⟩, hstored⟩,
      hverifications⟩
    exact ⟨hagent, hconnections, hinvitations, ⟨a, ha, listing, hlisting, hstored⟩, hverifications⟩

theorem Hold.read {h : Holdings} (hhold : answers.Hold h) (part : Part) :
    ∃ content, part.read (answers part) = .ok content := by
  obtain ⟨hagent, hconnections, hinvitations, ⟨a, ha, listing, hlisting, _⟩, hverifications⟩ := hhold
  cases part with
  | agent => exact ⟨_, contentOf_eq_ok_iff.2 hagent⟩
  | connections => exact ⟨_, itemsOf_eq_ok_iff.2 hconnections⟩
  | invitations => exact ⟨_, itemsOf_eq_ok_iff.2 hinvitations⟩
  | credentials => exact ⟨_, itemsOf_eq_ok_iff.2 ⟨a, ha, listing, hlisting, rfl⟩⟩
  | verifications => exact ⟨_, itemsOf_eq_ok_iff.2 hverifications⟩

theorem Hold.holdings? {h : Holdings} (hhold : answers.Hold h) (hall : ∀ part, part ∈ order) :
    (Join.collectedBy answers order).holdings? = some h := by
  obtain ⟨hagent, hconnections, hinvitations, ⟨a, ha, listing, hlisting, hstored⟩, hverifications⟩ :=
    hhold
  have hcredentials := itemsOf_eq_ok_iff.2 ⟨a, ha, listing, hlisting, rfl⟩
  simp [Collected.holdings?, Join.collectedBy, hall, Part.read, contentOf_eq_ok_iff.2 hagent,
    itemsOf_eq_ok_iff.2 hconnections, itemsOf_eq_ok_iff.2 hinvitations, hcredentials,
    itemsOf_eq_ok_iff.2 hverifications, Except.toOption, hstored]

theorem hold_of_read {content : (part : Part) → part.Content}
    (h : ∀ part : Part, part.read (answers part) = .ok (content part)) :
    answers.Hold {
      agent := content .agent
      connections := content .connections
      invitations := content .invitations
      credentials := List.filter Credential.isStored (content .credentials)
      verifications := content .verifications } := by
  have hstored : answers.fetched.credentials =
      .ok (List.filter Credential.isStored (content .credentials)) :=
    map_eq_ok_iff.2 ⟨content .credentials, h .credentials, rfl⟩
  exact hold_iff.2 (Fetched.holdings_eq_ok_iff.2
    ⟨h .agent, h .connections, h .invitations, hstored, h .verifications⟩)

theorem exists_hold (hgood : ∀ part, ∃ content, Part.read part (answers part) = .ok content) :
    ∃ h, answers.Hold h := by
  obtain ⟨content, hcontent⟩ := Classical.axiomOfChoice hgood
  exact ⟨_, hold_of_read hcontent⟩

theorem read_eq_ok_of_failure? {part : Part} (h : answers.fetched.failure? part = none) :
    ∃ content, part.read (answers part) = .ok content := by
  rw [failure?_fetched] at h
  exact Fetched.errorOf_eq_none_iff.1 h

/-- Either all answers are good, or one of them is the first that is not. -/
theorem arriving_cases (hall : ∀ part, part ∈ order) :
    (∃ h, answers.Hold h ∧ answers.fetched.arriving order = .ok h) ∨
      ∃ part cause, answers.FailsFirst order part cause ∧
        answers.fetched.arriving order = .error (.notFetched part.name cause) := by
  rcases hfirst : order.findSome? fun part =>
      (answers.fetched.failure? part).map (OpeningFailure.notFetched part.name) with _ | e
  · left
    have hgood (part : Part) : ∃ content, part.read (answers part) = .ok content :=
      read_eq_ok_of_failure? (Option.map_eq_none_iff.1
        (List.findSome?_eq_none_iff.1 hfirst part (hall part)))
    obtain ⟨h, hhold⟩ := exists_hold hgood
    refine ⟨h, hhold, ?_⟩
    rw [Fetched.arriving, hfirst]
    exact hold_iff.1 hhold
  · right
    obtain ⟨before, part, later, hsplit, hfailed, hbefore⟩ := List.findSome?_eq_some_iff.1 hfirst
    obtain ⟨cause, hcause, rfl⟩ := Option.map_eq_some_iff.1 hfailed
    rw [failure?_fetched] at hcause
    refine ⟨part, cause, ⟨before, later, hsplit, fun earlier hearlier => ?_,
      Fetched.errorOf_eq_some_iff.1 hcause⟩, ?_⟩
    · exact read_eq_ok_of_failure? (Option.map_eq_none_iff.1 (hbefore earlier hearlier))
    · rw [Fetched.arriving, hfirst]

end Answers

namespace Join

variable {answers : Answers} {order : List Part}

private theorem notMem_before {before later : List Part} {part : Part}
    (hnodup : (before ++ part :: later).Nodup) : part ∉ before := fun hmem =>
  (List.nodup_append.1 hnodup).2.2 part hmem part List.mem_cons_self rfl

theorem foldl_arrive_hold {h : Holdings} (horder : order.Perm Part.all) (hhold : answers.Hold h) :
    order.foldl (arrive answers) start = done (.ok h) := by
  have hall : ∀ part, part ∈ order := fun part => horder.mem_iff.2 part.mem_all
  have hnodup : order.Nodup := horder.nodup_iff.2 Part.nodup_all
  cases order using List.reverseRecOn with
  | nil => cases hall .agent
  | append_singleton before last _ =>
    have hfresh : last ∉ before := notMem_before hnodup
    obtain ⟨content, hread⟩ := hhold.read last
    rw [List.foldl_append, foldl_arrive_waiting hfresh fun part _ => hhold.read part]
    simp only [List.foldl_cons, List.foldl_nil, arrive, hread, update_collectedBy hread,
      hhold.holdings? hall]

theorem foldl_arrive_failsFirst {part : Part} {cause : Failure} (horder : order.Perm Part.all)
    (hfirst : answers.FailsFirst order part cause) :
    order.foldl (arrive answers) start = done (.error (.notFetched part.name cause)) := by
  have hnodup : order.Nodup := horder.nodup_iff.2 Part.nodup_all
  obtain ⟨before, later, rfl, hgood, hbad⟩ := hfirst
  exact foldl_arrive_failed (notMem_before hnodup) hgood hbad

theorem settled_of_done {result : Except OpeningFailure Holdings} (horder : order.Perm Part.all)
    (hdone : order.foldl (arrive answers) start = done result)
    (hok : ∀ h, result = .ok h → answers.Hold h)
    (herror : ∀ e, result = .error e →
      ∃ part cause, answers.FailsFirst order part cause ∧ e = .notFetched part.name cause) :
    Settled answers order result where
  joined := hdone
  ok_iff h := ⟨hok h, fun hhold => done.inj (hdone.symm.trans (foldl_arrive_hold horder hhold))⟩
  error_iff e := by
    refine ⟨herror e, ?_⟩
    rintro ⟨part, cause, hfirst, rfl⟩
    exact done.inj (hdone.symm.trans (foldl_arrive_failsFirst horder hfirst))

/-- In whatever order the answers arrive, the join settles on what arriving in that order gives. -/
theorem settled (horder : order.Perm Part.all) :
    Settled answers order (answers.fetched.arriving order) := by
  have hall : ∀ part, part ∈ order := fun part => horder.mem_iff.2 part.mem_all
  rcases answers.arriving_cases hall with ⟨h, hhold, harriving⟩ | ⟨part, cause, hfirst, harriving⟩
  · rw [harriving]
    exact settled_of_done horder (foldl_arrive_hold horder hhold) (fun _ hh => Except.ok.inj hh ▸ hhold)
      nofun
  · rw [harriving]
    exact settled_of_done horder (foldl_arrive_failsFirst horder hfirst) nofun
      fun _ he => ⟨part, cause, hfirst, (Except.error.inj he).symm⟩

end Join

end CredentialWallet.Holdings
