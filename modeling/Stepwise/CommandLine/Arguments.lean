import Stepwise.Entries
import Stepwise.Settings.Layers
import Stepwise.Text.Pieces

namespace Stepwise.CommandLine

inductive Command where
  | validate (file : String)
  | options (activity : String) (workflow : Option String)
  | rules
deriving DecidableEq, Repr

structure Request where
  command : Command
  arguments : Settings.Arguments

structure Words where
  values : Entries String := []
  operands : List String := []

def fileOption : String := "config"

def studioOption : String := "studio-url"

def storeOption : String := "store-url"

def workflowOption : String := "workflow"

def commonOptions : List String := [fileOption, studioOption, storeOption]

/-- The options whose values name files and are not empty. -/
def isFileOption (name : String) : Bool := name == fileOption || name == workflowOption

/-- Whether a word is an option or ends the options; a dash alone is an operand. -/
def isOption (word : String) : Bool := Text.startsWith word "-" && word != "-"

/-- The option in a word, with the value after it in the same word. -/
def option? (word : List Char) : Option (String × Option String) :=
  match word with
  | '-' :: '-' :: rest =>
    let (name, value) := Text.splitOnce '=' rest
    some (String.ofList name, value.map String.ofList)
  | ['-', 'w'] => some (workflowOption, none)
  | '-' :: 'w' :: '=' :: rest => some (workflowOption, some (String.ofList rest))
  | '-' :: 'w' :: rest => some (workflowOption, some (String.ofList rest))
  | _ => none

namespace Words

/-- Adds the value of one of the given options, unless it has one already. -/
def add? (w : Words) (allowed : List String) (name value : String) : Option Words :=
  if !allowed.contains name || w.values.contains name || (isFileOption name && value.isEmpty) then
    none
  else some { w with values := w.values.insert name value }

/-- Takes options up to the first operand, which is the name of a command, and answers with it and
the words after it. -/
def takeOptions? (allowed : List String) (w : Words) :
    List String → Option (Words × String × List String)
  | [] => none
  | word :: rest =>
    if isOption word then
      match option? word.toList with
      | none => none
      | some (name, some value) =>
        (w.add? allowed name value).bind fun w => takeOptions? allowed w rest
      | some (name, none) =>
        match rest with
        | [] => none
        | value :: rest =>
          if isOption value then none
          else (w.add? allowed name value).bind fun w => takeOptions? allowed w rest
    else some (w, word, rest)

/-- Takes options and operands up to the end. -/
def takeAll? (allowed : List String) (w : Words) : List String → Option Words
  | [] => some w
  | word :: rest =>
    if word = "--" then some { w with operands := w.operands ++ rest }
    else if isOption word then
      match option? word.toList with
      | none => none
      | some (name, some value) => (w.add? allowed name value).bind fun w => takeAll? allowed w rest
      | some (name, none) =>
        match rest with
        | [] => none
        | value :: rest =>
          if isOption value then none
          else (w.add? allowed name value).bind fun w => takeAll? allowed w rest
    else takeAll? allowed { w with operands := w.operands ++ [word] } rest

end Words

def optionsOf (command : String) : List String :=
  if command = "options" then workflowOption :: commonOptions else commonOptions

def command? (name : String) (w : Words) : Option Command :=
  match name, w.operands with
  | "validate", [file] => if file.isEmpty then none else some (.validate file)
  | "options", [activity] => some (.options activity (w.values.get? workflowOption))
  | "rules", [] => some .rules
  | _, _ => none

/-- Reads a command line; options after the name of the command win over those before it. -/
def parse? (words : List String) : Option Request := do
  let (before, name, rest) ← Words.takeOptions? commonOptions {} words
  let after ← Words.takeAll? (optionsOf name) {} rest
  let command ← command? name after
  let value (option : String) := (after.values.get? option).or (before.values.get? option)
  return ⟨command, {
    file := value fileOption
    studioUrl := value studioOption
    storeUrl := value storeOption }⟩

end Stepwise.CommandLine
