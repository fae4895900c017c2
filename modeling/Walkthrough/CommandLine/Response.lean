import Walkthrough.CommandLine.Demonstration
import Walkthrough.CommandLine.Request
import Walkthrough.Trace.Export
import Walkthrough.Trace.Listing

/-!
# Responses

What a request prints, and with which status it ends.
-/

namespace Walkthrough.CommandLine

/-- What is printed on the two channels, and the exit status. -/
structure Response where
  status : Nat
  output : String
  errors : String
deriving DecidableEq, Repr

/-- Every end of a line as one newline. -/
def plainNewlines : List Char → List Char
  | [] => []
  | '\r' :: '\n' :: rest => '\n' :: plainNewlines rest
  | '\r' :: rest => '\n' :: plainNewlines rest
  | c :: rest => c :: plainNewlines rest

/-- The text of a file as a program. -/
def sourceOfFile (contents : String) : String :=
  String.ofList (plainNewlines contents.toList)

/-- The file that a request names.  An empty name is none. -/
def Request.file? (request : Request) : Option String :=
  request.file.filter (!·.isEmpty)

def Request.config (request : Request) : Config :=
  { Config.usual with maxSteps := request.maxSteps, structured := request.structured }

def printed (lines : List String) : String :=
  String.join (lines.map (· ++ "\n"))

/-- What is printed before a program is traced. -/
def Request.preface (request : Request) : String :=
  match request.file? with
  | some _ => ""
  | none => printed ["No file provided. Using built-in demo:\n", demonstration]

/-- The whole trace: a listing, the variables at the end and the output. -/
def overview (showVariables : Bool) (trace : Trace) : Except Failure String := do
  let listing ← trace.listing showVariables
  let bindings ← documentText (some 2) (jsonOfEnv trace.store trace.finalVariables)
  return printed (
    ["═══ Trace ═══", listing, "\n═══ Final Variables ═══", bindings, "\n═══ Output ═══"] ++
      trace.finalOutput.lines)

def stepView (json : Bool) (trace : Trace) (step : Step) : Except Failure String := do
  let text ←
    if json then documentText (some 2) (step.toJson trace.store) else step.detailed trace.store
  return printed [text]

def Request.view (request : Request) (trace : Trace) : Except Failure Response := do
  match request.step with
  | some position =>
    match trace.stepAt position with
    | .ok step => return ⟨0, ← stepView request.json trace step, ""⟩
    | .error message => return ⟨2, "", printed [s!"error: {message}"]⟩
  | none =>
    if request.json then return ⟨0, printed [← trace.jsonText (some 2)], ""⟩
    else return ⟨0, ← overview request.vars trace, ""⟩

/-- What a request prints about a program, given the contents of the file if it names one. -/
def Request.respond (request : Request) (contents : Option String) :
    Except TraceError Response := do
  let source := match contents with
    | some text => sourceOfFile text
    | none => demonstration
  let trace ← Trace.ofSource request.config source
  let response ← (request.view trace).mapError .stopped
  return { response with output := request.preface ++ response.output }

end Walkthrough.CommandLine
