import CredentialWallet.Settings
import CredentialWallet.Text.Digits
/-!
# Commands and options

A command line names one command. In front of it stand options, each with a value; what is not given
there is taken from a variable of the environment or from a default.
-/

namespace CredentialWallet.Command

inductive Setting
  | descriptor
  | username
  | password
  | timeout
  | verificationState
  | logLevel
deriving DecidableEq

namespace Setting

def all : List Setting := [descriptor, username, password, timeout, verificationState, logLevel]

def long : Setting → String
  | descriptor => "descriptor"
  | username => "username"
  | password => "password"
  | timeout => "timeout"
  | verificationState => "verification-state"
  | logLevel => "log-level"

def short? : Setting → Option Char
  | username => some 'u'
  | password => some 'p'
  | logLevel => some 'l'
  | _ => none

/-- The variable of the environment that stands in for an option. -/
def environmentName? : Setting → Option String
  | descriptor => some "DIAGENCY_DESCRIPTOR"
  | username => some "DIAGENCY_USERNAME"
  | password => some "DIAGENCY_PASSWORD"
  | timeout => some "DIAGENCY_TIMEOUT"
  | verificationState => some "DIAGENCY_VERIFICATION_STATE"
  | logLevel => none

def default? : Setting → Option String
  | timeout => some "30"
  | verificationState => some "passed"
  | logLevel => some "info"
  | _ => none

/-- Whether there is no default to fall back on. -/
def isRequired (s : Setting) : Bool := s.default?.isNone

end Setting

/-- A natural below `2 ^ 64` in decimal digits, perhaps behind a plus sign. -/
def seconds? (s : String) : Option Nat :=
  let digits :=
    match s.toList with
    | '+' :: rest => rest
    | cs => cs
  Text.natural64? digits

/-- Whether a value is one for a setting. -/
def Setting.accepts (s : Setting) (value : String) : Bool :=
  match s with
  | descriptor => !value.isEmpty
  | timeout => (seconds? value).isSome
  | verificationState => (Word.decode? value : Option VerificationState).isSome
  | _ => true

structure Options where
  /-- The path of a file with a descriptor. -/
  descriptor : String
  username : String
  password : String
  timeout : Nat
  verificationState : VerificationState
  logLevel : String
deriving DecidableEq

/-- The settings of a client under some options. -/
def Options.settings (o : Options) : Settings :=
  { Settings.default with timeout := o.timeout, verificationState := o.verificationState }

/-- The options that a value for each setting makes. -/
def Options.ofValues? (value : Setting → Option String) : Option Options := do
  return {
    descriptor := ← value .descriptor
    username := ← value .username
    password := ← value .password
    timeout := ← (value .timeout).bind seconds?
    verificationState := ← (value .verificationState).bind Word.decode?
    logLevel := ← value .logLevel }

/-! ### Commands -/

/-- The names of the commands. -/
inductive Name
  | wallet
  | preview
  | accept
  | reject
  | prove
  | share
  | rejectProof
  | deleteCredential
deriving DecidableEq

namespace Name

def all : List Name := [wallet, preview, accept, reject, prove, share, rejectProof, deleteCredential]

def text : Name → String
  | wallet => "wallet"
  | preview => "preview"
  | accept => "accept"
  | reject => "reject"
  | prove => "prove"
  | share => "share"
  | rejectProof => "reject-proof"
  | deleteCredential => "delete-credential"

def ofText? (s : String) : Option Name := all.find? (·.text = s)

/-- Whether a command takes an argument, which all but one do. -/
def takesArgument : Name → Bool
  | wallet => false
  | _ => true

end Name

end CredentialWallet.Command

namespace CredentialWallet

/-- What the user wants done, once the wallet is open. -/
inductive Command
  | wallet
  | preview (url : String)
  | accept (url : String)
  | reject (url : String)
  | prove (url : String)
  | share (id : String)
  | rejectProof (id : String)
  | deleteCredential (id : String)
deriving DecidableEq

namespace Command

/-- The command of a name and its arguments. -/
def ofArguments? : Name → List String → Option Command
  | .wallet, [] => some .wallet
  | .preview, [url] => some (.preview url)
  | .accept, [url] => some (.accept url)
  | .reject, [url] => some (.reject url)
  | .prove, [url] => some (.prove url)
  | .share, [id] => some (.share id)
  | .rejectProof, [id] => some (.rejectProof id)
  | .deleteCredential, [id] => some (.deleteCredential id)
  | _, _ => none

end Command

end CredentialWallet
