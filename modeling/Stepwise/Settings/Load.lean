import Stepwise.Settings.Layers
import Stepwise.Settings.VariableFile
import Stepwise.Surroundings

namespace Stepwise.Settings

/-- The variable that names the settings file. -/
def fileVariable : String := "REFRAIN_CONFIG_PATH"

/-- The settings file that is read when it is there. -/
def usualFile : String := "refrain.toml"

/-- The file of variables that is read before the settings. -/
def variableFile : String := ".env"

/-- What is added to the path of a settings file that is not there. -/
def fileEnding : String := ".toml"

variable {m : Type → Type} [Monad m]

/-- The environment variables with those of the file of variables. -/
def loadVariables (s : Surroundings m) : m (Entries String) := do
  let environment ← s.environment
  match ← s.readNearest variableFile with
  | some text => return VariableFile.extend environment text
  | none => return environment

/-- The file that has to be there, by the arguments or else by the variables. -/
def requiredFile? (arguments : Arguments) (environment : Entries String) : Option String :=
  arguments.file.or (if arguments.skipVariables then none else environment.get? fileVariable)

/-- A path, in reverse, without what follows its last name but leads nowhere else. -/
def withoutTail : List Char → List Char
  | '/' :: rest => withoutTail rest
  | '.' :: '/' :: rest => withoutTail rest
  | path => path

/-- A path up to its last name and with the usual ending; none when it has no last name or leads
upwards at its end. -/
def withEnding? (path : String) : Option String :=
  let path := withoutTail path.toList.reverse
  if ["", ".", ".."].contains (String.ofList (path.takeWhile (· ≠ '/'))) then none
  else some (String.ofList path.reverse ++ fileEnding)

/-- The text of a file, at a path or else at the path with the usual ending. -/
def readNamed (s : Surroundings m) (path : String) : m (Option String) := do
  match ← s.readFile path with
  | some text => return some text
  | none =>
    match withEnding? path with
    | some path => s.readFile path
    | none => return none

def documentFields? (text : String) : Option (List (String × Value)) :=
  (Toml.parse? (String.ofList (Text.afterMark text.toList))).bind fun document =>
    (Value.ofToml document).fields?

def fileText (s : Surroundings m) (required : Option String) : m (Option String) := do
  match required with
  | some path => readNamed s path
  | none => if ← s.isThere usualFile then readNamed s usualFile else return some ""

def loadFile (s : Surroundings m) (required : Option String) :
    m (Except Fault (List (String × Value))) := do
  match (← fileText s required).bind documentFields? with
  | some fields => return .ok fields
  | none => return .error .notLoaded

def load (s : Surroundings m) (arguments : Arguments) : m (Except Fault Settings) := do
  let environment ← if arguments.skipVariables then pure [] else loadVariables s
  match ← loadFile s (requiredFile? arguments environment) with
  | .error fault => return .error fault
  | .ok fields => return ofLayers (layers arguments fields environment)

end Stepwise.Settings
