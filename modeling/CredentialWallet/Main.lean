import CredentialWallet.Command.Run
/-!
# The program

The outer layer of the command line: it looks up the environment, reads the descriptor and prints. No
network comes with it, so every agency is out of its reach.
-/

namespace CredentialWallet.Program

/-- The content of the file at a path, or why it cannot be read. -/
def readDescriptor (path : String) : IO (Except String String) := do
  try
    return .ok (← IO.FS.readFile path)
  catch
    | .noFileOrDirectory .. => return .error "No such file or directory (os error 2)"
    | .permissionDenied .. => return .error "Permission denied (os error 13)"
    | .inappropriateType .. => return .error "Is a directory (os error 21)"
    | e => return .error e.toString

/-- The path of the descriptor, where the command line has one. -/
def descriptorPath? (env : Command.Environment) (words : List String) : Option String :=
  match Command.parse env words with
  | .ok (o, _) => some o.descriptor
  | .error _ => none

/-- Runs the program and gives its exit code. -/
def run (words : List String) : IO UInt32 := do
  let names := Command.Setting.all.filterMap Command.Setting.environmentName?
  let values ← names.filterMapM fun name => do
    return (← IO.getEnv name).map (name, ·)
  let env : Command.Environment := fun name => values.lookup name
  let content ←
    match descriptorPath? env words with
    | some path => readDescriptor path
    | none => pure (.ok "")
  let (report, _) := Command.run env (fun _ => content) words .down
  IO.print report.output
  IO.eprint report.errors
  return UInt32.ofNat report.exitCode

end CredentialWallet.Program

def main (words : List String) : IO UInt32 := CredentialWallet.Program.run words
