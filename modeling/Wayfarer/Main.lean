import Wayfarer.Command.Run

/-!
The command line.

Requests are not sent anywhere: `fetch` prints what can be told without a connection.
-/

namespace Wayfarer

/-- The transport of a program without a network. -/
def offline : Transport := fun _ => .error (.network "no connection")

/-- The variables of the environment. -/
def environment : IO (List (String × String)) := do
  let content ← try IO.FS.readBinFile "/proc/self/environ" catch _ => pure .empty
  let text := Utf8.decodeLossy content.toList
  let entries := (splitAtEvery (· = '\x00') text).filterMap (splitAtFirst ['='])
  return entries.map fun (name, value) => (String.ofList name, String.ofList value)

/-- What is found at a path. -/
def findEntry (path : String) : IO FileEntry :=
  try
    return .file (← IO.FS.readBinFile path).toList
  catch
    | .inappropriateType .. => return .folder
    | _ => return .missing

/-- The bytes of standard input. -/
def readInput : IO Bytes :=
  return (← IO.FS.readBinFile "/dev/stdin").toList

end Wayfarer

open Wayfarer

def main (args : List String) : IO UInt32 := do
  let (entries, input) ← match Invocation.read? args with
    | some i => do
        let entries ← i.files.mapM fun path => do return (path, ← findEntry path)
        let input ← if i.readsInput then readInput else pure []
        pure (entries, input)
    | none => pure ([], [])
  let world : World := {
    vars := ← environment
    input := input
    entry := fun path => ((entries.find? (·.1 = path)).map (·.2)).getD .missing }
  let outcome := run world offline args
  IO.print outcome.output
  if let some text := outcome.complaintText? then IO.eprintln text
  return UInt32.ofNat outcome.code
