import CredentialWallet.Service
/-!
# Runs of a service

Everything a service can do, as data: an operation is performed on the wallet as the operations before
it left it, whether they succeeded or failed.
-/

namespace CredentialWallet.Service

inductive Operation
  | preview (url : String)
  | actOnOffer (offer : Offer) (action : CredentialAction)
  | actOnProofRequest (request : ProofRequest) (action : VerificationAction)
  | shareProof (id : String)
  | rejectProof (id : String)
  | updateConnection (id : String) (update : Connection.Update)
  | deleteCredential (id : String)
  | refreshToken
  | reload (order : List Holdings.Part)

/-- What an operation that succeeds gives. -/
inductive Outcome
  | preview (preview : Preview)
  | credential (credential : Credential)
  | verification (verification : Verification)
  | connection (connection : Connection)
  | token (token : Token)
  | done
deriving DecidableEq

/-- Why an operation fails. -/
inductive Mishap
  | failure (failure : Failure)
  | notReloaded (failure : OpeningFailure)
deriving DecidableEq

variable (s : Service)

/-- A deed seen as the performance of an operation. -/
def report {ε α : Type} (wrong : ε → Mishap) (right : α → Outcome) (d : Deed ε α) :
    Deed Mishap Outcome := fun link w j =>
  let r := d link w j
  ((r.1.mapError wrong).map right, r.2)

def perform : Operation → Deed Mishap Outcome
  | .preview url => report .failure .preview (s.preview url)
  | .actOnOffer offer action => report .failure .credential (s.actOnOffer offer action)
  | .actOnProofRequest request action =>
    report .failure .verification (s.actOnProofRequest request action)
  | .shareProof id => report .failure .verification (s.shareProof id)
  | .rejectProof id => report .failure .verification (s.rejectProof id)
  | .updateConnection id update => report .failure .connection (s.updateConnection id update)
  | .deleteCredential id => report .failure (fun _ => .done) (s.deleteCredential id)
  | .refreshToken => report .failure .token s.refreshToken
  | .reload order => report .notReloaded (fun _ => .done) (s.reload order)

/-- The wallet and the journal after some operations, one after the other. -/
def run (link : Link) : List Operation → Wallet × Journal → Wallet × Journal
  | [], state => state
  | operation :: rest, (w, j) => run link rest (s.perform operation link w j).2

theorem run_cons (link : Link) (operation : Operation) (rest : List Operation) (w : Wallet)
    (j : Journal) :
    s.run link (operation :: rest) (w, j) = s.run link rest (s.perform operation link w j).2 := rfl

theorem run_append (link : Link) (earlier later : List Operation) (state : Wallet × Journal) :
    s.run link (earlier ++ later) state = s.run link later (s.run link earlier state) := by
  induction earlier generalizing state with
  | nil => rfl
  | cons operation rest ih => exact ih (s.perform operation link state.1 state.2).2

end CredentialWallet.Service
