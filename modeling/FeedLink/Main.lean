import FeedLink.Cli.Program

/-!
# The command line program

The program reads the file of a configuration, and prints. It has no sockets of its own, so that it
runs as on a machine without a network: whatever is checked before a dial is checked, and the dial
fails.
-/

namespace FeedLink.Cli

/-- What is said of a file that cannot be read. -/
def readFault : IO.Error → String
  | .noFileOrDirectory .. => "No such file or directory (os error 2)"
  | .permissionDenied .. => "Permission denied (os error 13)"
  | .inappropriateType .. => "Is a directory (os error 21)"
  | e => toString e

/-- The file that a command reads, if it reads one. -/
def fileOf? : Command → Option String
  | .subscribe connection _ _ _ | .request connection _ _ => connection.config
  | .feeds => none

/-- The contents of a file, or why it cannot be read. -/
def contentsOf (path : String) : IO (Except String (List UInt8)) := do
  try
    return .ok (← IO.FS.readBinFile path).toList
  catch e =>
    return .error (readFault e)

end FeedLink.Cli

open FeedLink Cli in
/-- Runs the program. -/
def main (words : List String) : IO UInt32 := do
  let path? := (parse words).toOption.bind fileOf?
  let contents ← match path? with
    | some path => contentsOf path
    | none => pure (.ok [])
  let outcome := run Network.unreachable (fun _ => contents) words
  IO.print outcome.output
  match outcome.complaint with
  | some complaint => IO.eprintln ("Error: " ++ complaint)
  | none => pure ()
  return .ofNat outcome.code
