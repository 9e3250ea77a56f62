import PolicyBridge.Cli.Run
import PolicyBridge.Script.Library

namespace PolicyBridge.Program

open Cli Config

def environment : IO Environment := do
  let bytes ← IO.FS.readBinFile "/proc/self/environ"
  let entries := Text.splitAt '\x00' (Text.decodeLossy bytes.toList).toList
  return entries.filterMap fun e =>
    let (name, value) := splitEquals e
    value.map fun v => (String.ofList name, String.ofList v)

def directory (path : List String) : List String × List UInt8 := (path ++ ["."], [])

/-- A file as it is in the file system, and the directories on the way. What is there without
being a file counts as a directory. -/
def readFile (path : String) : IO Files := do
  let place := Path.place path
  try
    let bytes ← IO.FS.readBinFile path
    return (place, bytes.toList) :: (Path.directories path).map directory
  catch
    | .inappropriateType .. => return [directory place]
    | _ => return []

def readFiles (paths : List String) : IO Files := do
  return (← paths.mapM readFile).flatten

def polls : Nat := UInt64.size

def filesFor (env : Environment) (args : List String) : IO Files := do
  match Arguments.read env args with
  | .error _ => return []
  | .ok a =>
    let own ← readFiles a.config.toList
    match a.settings own env with
    | .error _ => return own
    | .ok c => return own ++ (← readFiles (c.policy.files ++ a.policyFiles))

end PolicyBridge.Program

open PolicyBridge

def main (args : List String) : IO UInt32 := do
  let env ← Program.environment
  let files ← Program.filesFor env args
  let (outcome, _) := Cli.run files env Program.polls args (Script.Library.empty none)
  IO.print outcome.stdout
  if let some e := outcome.error then IO.eprintln e
  return outcome.code
