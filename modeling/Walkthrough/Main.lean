import Walkthrough.CommandLine.Response

/-!
# The command line

Reads the file that the command line names, and prints the response.
-/

namespace Walkthrough.CommandLine

def usage : String :=
  "usage: walkthrough [-h] [--json] [--step N] [--structured] [--max-steps N] [--vars] [--verbose] " ++
    "[file]"

def deliver (response : Response) : IO UInt32 := do
  IO.print response.output
  IO.eprint response.errors
  return response.status.toUInt32

def serve (request : Request) : IO UInt32 := do
  let contents ← match request.file? with
    | some file => some <$> IO.FS.readFile file
    | none => pure none
  match request.respond contents with
  | .ok response => deliver response
  | .error cause => deliver ⟨1, "", printed [s!"error: {cause.message}"]⟩

end Walkthrough.CommandLine

open Walkthrough.CommandLine in
def main (arguments : List String) : IO UInt32 := do
  match Request.ofArguments arguments with
  | .ok request => serve request
  | .error .help => deliver ⟨0, printed [usage], ""⟩
  | .error .usage => deliver ⟨2, "", printed [usage]⟩
