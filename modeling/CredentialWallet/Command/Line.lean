import CredentialWallet.Command.Help
/-!
# Reading a command line

The words of a command line are taken one after another. A value is looked at when the word behind it
is taken, so a request for help is granted before the last option in front of a command turns out to be
wrong. An option may be given once.
-/

namespace CredentialWallet.Command

/-- What ends the reading of a command line early. -/
inductive Halt
  | refused
  | shown (text : String)

/-- The values given so far. -/
abbrev Given := List (Setting × String)

/-- The option taken last, and its value once that is there. -/
structure Pending where
  setting : Setting
  value : Option String

/-- Takes a value for a setting that has none yet. -/
def take (given : Given) (s : Setting) (value : String) : Except Halt Given :=
  if s.accepts value && (given.lookup s).isNone then .ok (given ++ [(s, value)]) else .error .refused

/-- Takes the value of the option taken last. -/
def settle (given : Given) : Option Pending → Except Halt Given
  | none => .ok given
  | some ⟨_, none⟩ => .error .refused
  | some ⟨s, some value⟩ => take given s value

/-- A name and the value attached to it by a sign of equality. -/
def splitAttached (cs : List Char) : String × Option String :=
  let name := cs.takeWhile (· ≠ '=')
  match cs.drop name.length with
  | [] => (String.ofList name, none)
  | _ :: value => (String.ofList name, some (String.ofList value))

/-- Whether a word is an option, or is meant to be one. -/
def isDashed (word : String) : Bool :=
  match word.toList with
  | '-' :: _ :: _ => true
  | _ => false

/-- An option by its long name, without the dashes. -/
def longOption (env : Environment) (given : Given) (pending : Option Pending) (cs : List Char) :
    Except Halt (Given × Option Pending) := do
  let given ← settle given pending
  match splitAttached cs with
  | ("help", none) => .error (.shown (helpText env))
  | ("version", none) => .error (.shown versionText)
  | (name, attached) =>
    match Setting.all.find? (·.long = name), attached with
    | none, _ => .error .refused
    | some s, none => .ok (given, some ⟨s, none⟩)
    | some s, some value => return (← take given s value, none)

/-- An option by its letter, and what is attached to it. -/
def shortOption (env : Environment) (given : Given) (pending : Option Pending) (letter : Char)
    (attached : List Char) : Except Halt (Given × Option Pending) := do
  let given ← settle given pending
  if letter = 'h' then .error (.shown (helpText env))
  else if letter = 'V' then .error (.shown versionText)
  else
    match Setting.all.find? (·.short? = some letter), attached with
    | none, _ => .error .refused
    | some s, [] => .ok (given, some ⟨s, none⟩)
    | some s, '=' :: value => return (← take given s (String.ofList value), none)
    | some s, value => return (← take given s (String.ofList value), none)

/-- The options in front of the command, the one whose value is not looked at yet, and the words from
the command on. -/
def options (env : Environment) (given : Given) (pending : Option Pending) :
    List String → Except Halt (Given × Option Pending × List String)
  | [] => .ok (given, pending, [])
  | word :: rest =>
    match pending with
    | some ⟨s, none⟩ =>
      if isDashed word then .error .refused else options env given (some ⟨s, some word⟩) rest
    | pending =>
      match word.toList with
      | ['-', '-'] => .error .refused
      | '-' :: '-' :: cs =>
        match longOption env given pending cs with
        | .ok (given, pending) => options env given pending rest
        | .error halt => .error halt
      | '-' :: letter :: attached =>
        match shortOption env given pending letter attached with
        | .ok (given, pending) => options env given pending rest
        | .error halt => .error halt
      | _ => .ok (given, pending, word :: rest)

/-- The arguments of a command; behind two dashes every word is one. A single dash and the letter for
help ask for help, whatever else stands in the word. -/
def arguments (name : Name) (room : Nat) : List String → Except Halt (List String)
  | [] => .ok []
  | word :: rest =>
    if word = "--help" || ['-', 'h'].isPrefixOf word.toList then .error (.shown name.helpText)
    else if word = "--" then if rest.length ≤ room then .ok rest else .error .refused
    else if isDashed word then .error .refused
    else
      match room with
      | 0 => .error .refused
      | room + 1 =>
        match arguments name room rest with
        | .ok words => .ok (word :: words)
        | .error halt => .error halt

/-- The value of a setting: as given, or from the environment, or by default. -/
def valueOf (env : Environment) (given : Given) (s : Setting) : Option String :=
  (given.lookup s).or ((s.environmentName?.bind env).or s.default?)

/-- The help that is asked for by the command of that name. -/
def helpOn (env : Environment) : List String → Halt
  | [] => .shown (helpText env)
  | [word] =>
    if word = "help" then .shown helpOnHelpText
    else
      match Name.ofText? word with
      | some name => .shown name.helpText
      | none => .refused
  | _ => .refused

/-- The options and the command of a command line. -/
def parse (env : Environment) (words : List String) : Except Halt (Options × Command) := do
  match ← options env [] none words with
  | (_, _, []) => .error .refused
  | (given, pending, word :: rest) =>
    if word = "help" then .error (helpOn env rest)
    else
      match Name.ofText? word with
      | none => .error .refused
      | some name =>
        let words ← arguments name (if name.takesArgument then 1 else 0) rest
        match ofArguments? name words with
        | none => .error .refused
        | some command =>
          let given ← settle given pending
          match Options.ofValues? (valueOf env given) with
          | some o => if o.descriptor.isEmpty then .error .refused else .ok (o, command)
          | none => .error .refused

end CredentialWallet.Command
