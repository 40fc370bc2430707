import Stepwise.CommandLine.Run

namespace Stepwise.Program

def readFile (file : String) : IO (Option String) := do
  try return some (← IO.FS.readFile file)
  catch _ => return none

def isThere (path : String) : IO Bool := do
  try
    let _ ← IO.FS.readFile path
    return true
  catch
    | .noFileOrDirectory .. => return false
    | _ => return true

def waysUp (levels : Nat) : List String :=
  (List.range levels).map fun n => String.join (List.replicate n "../")

/-- The first file of a name along some ways. -/
def readFirst (name : String) : List String → IO (Option String)
  | [] => return none
  | way :: rest => do
    match ← readFile (way ++ name) with
    | some text => return some text
    | none => readFirst name rest

def readNearest (name : String) : IO (Option String) := do
  let here := (← IO.currentDir).toString
  readFirst name (waysUp (Text.splitOn '/' here.toList).length)

/-- The environment as one text, with a zero after each variable. -/
def environmentFile : String := "/proc/self/environ"

def variableOf? (entry : List Char) : Option (String × String) :=
  match Text.splitOnce '=' entry with
  | (name, some value) => some (String.ofList name, String.ofList value)
  | _ => none

def environment : IO (Entries String) := do
  let text := (← readFile environmentFile).getD ""
  return Entries.ofList ((Text.splitOn (Char.ofNat 0) text.toList).filterMap variableOf?)

def surroundings : Surroundings IO where
  readFile := readFile
  isThere := isThere
  readNearest := readNearest
  environment := environment

def usage : String :=
  "Usage: stepwise [--config FILE] [--studio-url URL] [--store-url URL] COMMAND\n\n" ++
    "Commands:\n" ++
    "  validate FILE                   Check a workflow file and print its diagnostics\n" ++
    "  options ACTIVITY [-w FILE]      Print the options an activity would run with\n" ++
    "  rules                           List the validation rules\n"

end Stepwise.Program

def main (arguments : List String) : IO UInt32 := do
  match Stepwise.CommandLine.parse? arguments with
  | none =>
    IO.eprint Stepwise.Program.usage
    return 2
  | some request =>
    let reply ← Stepwise.CommandLine.run Stepwise.Program.surroundings request
    IO.print reply.output
    match reply.failure with
    | none => return 0
    | some failure =>
      IO.eprintln ("Error: " ++ failure.report)
      return 1
