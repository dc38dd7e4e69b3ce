import CredentialWallet.Command.Options
import CredentialWallet.Text.ControlSequence
/-!
# Help

What the command line says about itself when it is asked to.
-/

namespace CredentialWallet.Command

/-- The values of the variables of the environment. -/
abbrev Environment := String → Option String

def versionText : String := "diagency 0.1.0\n"

def Setting.help : Setting → String
  | descriptor => "Path to the wallet initialization descriptor"
  | username => "Account name"
  | password => "Account password"
  | timeout => "Request timeout in seconds"
  | verificationState => "Verification state the wallet lists"
  | logLevel => "Log filter used when RUST_LOG is unset"

/-- The placeholder for the value of a setting. -/
def Setting.placeholder (s : Setting) : String :=
  "<" ++ String.ofList (s.long.toList.map fun c => if c = '-' then '_' else c.toUpper) ++ ">"

/-- The setting with its placeholder. -/
def Setting.synopsis (s : Setting) : String := s!"--{s.long} {s.placeholder}"

def Name.help : Name → String
  | wallet => "Print the wallet contents"
  | preview => "Preview an invitation without acting on it"
  | accept => "Accept a credential offer"
  | reject => "Reject a credential offer"
  | prove => "Generate a proof for a verification request"
  | share => "Share a generated proof"
  | rejectProof => "Decline a verification request"
  | deleteCredential => "Delete a stored credential"

/-- The argument of a command and what it is. -/
def Name.argument : Name → Option (String × String)
  | wallet => none
  | preview => some ("<URL>", "Invitation URL")
  | accept | reject => some ("<URL>", "Invitation URL of the offer")
  | prove => some ("<URL>", "Invitation URL of the request")
  | share | rejectProof => some ("<ID>", "Verification id")
  | deleteCredential => some ("<ID>", "Credential id")

def requiredSynopsis : String :=
  " ".intercalate ((Setting.all.filter Setting.isRequired).map Setting.synopsis)

/-- The value that the environment gives is shown, but for the password. -/
def Setting.variableNote (s : Setting) (env : Environment) : String :=
  match s.environmentName? with
  | none => ""
  | some name =>
    let value := (env name).getD ""
    if s = .password then s!" [env: {name}]" else s!" [env: {name}={value}]"

def Setting.defaultNote (s : Setting) : String :=
  match s.default? with
  | some value => s!" [default: {value}]"
  | none => ""

/-- A text in the bold type of a terminal. -/
def emphasised (s : String) : String := "\x1b[1m" ++ s ++ "\x1b[0m"

/-- A setting and what it is. Each line of the description is set in. -/
def Setting.lines (s : Setting) (env : Environment) : List String :=
  let short :=
    match s.short? with
    | some c => "  " ++ emphasised s!"-{c}" ++ ", "
    | none => "      "
  let description := s.help ++ s.variableNote env ++ s.defaultNote
  (short ++ emphasised ("--" ++ s.long) ++ " " ++ s.placeholder) ::
    (description.splitOn "\n").map ("          " ++ ·)

def usageLine : String := s!"Usage: diagency [OPTIONS] {requiredSynopsis} <COMMAND>"

/-- What is said about a command line that cannot be read. -/
def usageText : String := usageLine ++ "\n\nFor more information, try --help.\n"

/-- A name filled up to a width. -/
def padded (width : Nat) (s : String) : String :=
  s ++ String.ofList (List.replicate (width - s.length) ' ')

/-- What the command that gives help is for. -/
def helpPurpose : String := "Print this message or the help of the given subcommand(s)"

/-- The help for the command line as a whole. It is not meant for a terminal, so no value of the
environment can control one. -/
def helpText (env : Environment) : String :=
  let commands := (Name.all.map fun name => (name.text, name.help)) ++ [("help", helpPurpose)]
  let lines : List String :=
    ["Digital credential wallet for diagency agents", "", usageLine, "", "Commands:"] ++
    (commands.map fun entry => "  " ++ padded 19 entry.1 ++ entry.2) ++ ["", "Options:"] ++
    (Setting.all.flatMap (·.lines env)) ++
    ["  " ++ emphasised "-h" ++ ", " ++ emphasised "--help", "          Print help",
      "  " ++ emphasised "-V" ++ ", " ++ emphasised "--version", "          Print version"]
  Text.plain ("\n".intercalate lines ++ "\n")

/-- The help for one command. -/
def Name.helpText (name : Name) : String :=
  let argument :=
    match name.argument with
    | some (placeholder, what) => ["Arguments:", s!"  {placeholder}  {what}", ""]
    | none => []
  let placeholder := (name.argument.map fun entry => " " ++ entry.1).getD ""
  let lines : List String :=
    [name.help, "", s!"Usage: diagency {requiredSynopsis} {name.text}{placeholder}", ""] ++ argument ++
    ["Options:", "  -h, --help  Print help"]
  "\n".intercalate lines ++ "\n"

/-- The help for the command that gives help. -/
def helpOnHelpText : String :=
  "\n".intercalate
    [helpPurpose, "", s!"Usage: diagency {requiredSynopsis} help [COMMAND]...", "", "Arguments:",
      "  [COMMAND]...  Print help for the subcommand(s)"] ++ "\n"

end CredentialWallet.Command
