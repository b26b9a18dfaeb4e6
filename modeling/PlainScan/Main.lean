import PlainScan.CommandLine.Run
import Std.Time.DateTime.Timestamp

namespace PlainScan.CommandLine

/-!
# The program

* `lookUp` — what lies at a path of the real file system.
* `surroundings` — the secrets, the time and an identifier.  The program has no access to a
  network and starts no tools, and the replies say so.
* `runProgram` — reads the settings, runs the command, and prints and writes what it has to.
-/

/-- What lies at a path; what cannot be read counts as a directory. -/
def lookUp (path : FilePath) : IO (Except PathFault FileNode) := do
  try
    let content ← IO.FS.readBinFile path.text
    return .ok (.file content.toList)
  catch
    | .noFileOrDirectory .. => return .error .notFound
    | _ => return .ok (.directory [])

/-- The time by the clock of the machine. -/
def currentInstant : IO Instant := do
  let seconds := (← Std.Time.Timestamp.now).toSecondsSinceUnixEpoch.val
  return .ofEpoch seconds.toNat 0

/-- An identifier of thirty-two hexadecimal digits. -/
def newIdentifier : IO String := do
  let bytes ← IO.getRandomBytes 16
  return String.ofList (bytes.toList.flatMap fun b => Json.hexDigits 2 b.toNat)

/-- What a scan meets outside of the program. -/
def surroundings : IO Surroundings := do
  let key ← IO.getEnv "ANTHROPIC_API_KEY"
  let token ← IO.getEnv "GITHUB_TOKEN"
  let env := Environment.ofValues key token
  return {
    env := env
    now := ← currentInstant
    network := { tree := .unreachable "no network access", file := fun _ => .unreachable }
    tools := fun _ =>
      { lint := .notStarted "no tools available", audit := .notStarted "no tools available" }
    access := accessFor false none env.apiKey
    model := fun _ => .disconnected
    scanId := ← newIdentifier }

/-- Prints and writes what a command has to. -/
def perform (c : CommandOutcome) : IO UInt32 := do
  (← IO.getStdout).putStr c.printed
  if let some (path, text) := c.file then
    IO.FS.writeFile path text
  (← IO.getStdout).putStr c.closing
  (← IO.getStderr).putStr c.complaint
  return c.exitCode

/-- Runs the command that the arguments ask for. -/
def runProgram (arguments : List String) : IO UInt32 := do
  let known ← (settingsPaths arguments).mapM fun path => return (path, ← lookUp path)
  let find (path : FilePath) : Except PathFault FileNode :=
    (known.lookup path).getD (.error .notFound)
  let host : Host := ⟨[("tmp", .directory [])], ["tmp"], fun _ => Removal.upTo Removal.levelLimit⟩
  match (runCommand find (← surroundings) arguments host).outcome with
  | some outcome => perform outcome
  | none => throw (IO.userError "unexpected failure")

end PlainScan.CommandLine

/-- Runs the program. -/
def main (arguments : List String) : IO UInt32 := PlainScan.CommandLine.runProgram arguments
