import CredentialWallet.Talk
/-!
# Scripted agencies

A script lists routes, each with the replies it gives in turn. A request takes the first route of its
method, path and query, whatever the host; the last reply of a route is given for all later requests.
-/

namespace CredentialWallet.Http

structure Route where
  method : String
  path : String
  /-- The answers in turn, with none where the agency hangs up. -/
  replies : List (Option Answer)

abbrev Script := List Route

def Route.matches (route : Route) (r : Request) : Bool :=
  route.method = r.method.text && route.path = r.target

/-- The answer where there is no route. -/
def Answer.notFound : Answer := ⟨404, none, []⟩

/-- Whether a status only announces another answer, for which the client goes on waiting. -/
def isInterim (status : Nat) : Bool := 100 ≤ status && status < 200 && status ≠ 101

/-- An answer as it arrives: some statuses and methods leave no room for a body. -/
def Answer.arriving (method : Method) (a : Answer) : Option Answer :=
  if isInterim a.status then none
  else if a.status ∈ [101, 204, 304] ∨ method.text = "HEAD" then some { a with body := [] }
  else some a

/-- The place and the content of the first route for a request. -/
def Script.route? (script : Script) (r : Request) : Option (Nat × Route) :=
  script.zipIdx.findSome? fun entry =>
    if entry.1.matches r then some (entry.2, entry.1) else none

/-- The reply to a request after those that came before it. -/
def Script.reply (script : Script) (before : List Request) (r : Request) : Option Answer :=
  match script.route? r with
  | none => some Answer.notFound
  | some (place, route) =>
    let turn := (before.filter fun r => (script.route? r).any (·.1 = place)).length
    match route.replies[min turn (route.replies.length - 1)]? with
    | some reply => reply.bind (Answer.arriving r.method)
    | none => some Answer.notFound

def Script.agency (script : Script) : Agency := fun requests =>
  match requests.getLast? with
  | some r => script.reply requests.dropLast r
  | none => none

end CredentialWallet.Http
