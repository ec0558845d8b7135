import Clausal.Command.Run

/-!
# Program

Runs a command on the files and the standard input of the system. What the command reads is read
first; output goes to the standard output, and a failure to the standard error.
-/

namespace Clausal

/-- A system error in the words of the system. -/
def FileFault.ofSystem (code : UInt32) (details : String) : FileFault :=
  .other (details ++ " (os error " ++ natText code.toNat ++ ")")

/-- The fault behind a system error. -/
def FileFault.ofError : IO.Error → FileFault
  | .noFileOrDirectory .. => .notFound
  | .inappropriateType _ code details | .permissionDenied _ code details
  | .resourceExhausted _ code details | .invalidArgument _ code details
  | .hardwareFault code details | .noSuchThing _ code details | .otherError code details =>
    .ofSystem code details
  | e => .other (toString e)

/-- Whether something is at a path of the system, be it readable or not. -/
def isThereInSystem (path : String) : IO Bool := do
  try
    let _ ← IO.FS.realPath path
    return true
  catch _ => return false

/-- The text of a file of the system. -/
def readSystemFile (path : String) : IO FileRead := do
  try
    return decodeText (← IO.FS.readBinFile path)
  catch e => return .error (.ofError e)

/-- All of the standard input. -/
def readStandardInput : IO FileRead := do
  try
    let stdin ← IO.getStdin
    let mut bytes := ByteArray.empty
    let mut more := true
    while more do
      let chunk ← stdin.read 65536
      bytes := bytes ++ chunk
      more := !chunk.isEmpty
    return decodeText bytes
  catch e => return .error (.ofError e)

namespace Command

/-- The files that a command may read; a dash among them is the standard input. -/
def paths : Command → List String
  | .help _ => []
  | .render args => args.config :: args.files
  | .merge files => files
  | .append files => files

/-- Whether a command reads the standard input. -/
def readsStdin : Command → Bool
  | .help _ => false
  | .render args => args.files.isEmpty || args.files.contains "-"
  | .merge files => files.isEmpty || files.contains "-"
  | .append files => files.isEmpty || files.contains "-"

/-- The part of the system that a command may look at. -/
def world (command : Command) : IO World := do
  let files ← command.paths.mapM fun path => do
    return (path, ← isThereInSystem path, ← readSystemFile path)
  let stdin ← if command.readsStdin then readStandardInput else pure (.ok "")
  return {
    isThere := fun path => (files.lookup path).any Prod.fst
    file := fun path => ((files.lookup path).map Prod.snd).getD (.error .notFound)
    stdin }

/-- The part of the system that matters for arguments; nothing of it does where they are not
understood. -/
def worldOf (args : List String) : IO World :=
  match Command.read args with
  | .ok command => command.world
  | .error _ => (Command.help .root).world

end Command

end Clausal

/-- Runs the program on its arguments, and prints what comes of it. -/
def main (args : List String) : IO UInt32 := do
  let world ← Clausal.Command.worldOf args
  let outcome := (Clausal.Command.runArgs world args).outcome
  IO.print outcome.stdout
  IO.eprint outcome.stderr
  return outcome.exitCode
