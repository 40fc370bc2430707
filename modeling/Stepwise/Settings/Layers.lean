import Stepwise.Settings.Basic
import Stepwise.Settings.Path
import Stepwise.Settings.Value

namespace Stepwise.Settings

/-- Settings with keys in lower case. A table is laid over another field by field, and every other
value takes the place of what was there. -/
abbrev Layer := Entries Value

mutual

/-- What stands under a key once a value is laid over it. An empty table leaves other values
alone. -/
def laidOver (under : Option Value) : Value → Value
  | .table fields =>
    match under with
    | some (.table earlier) => .table (layFields earlier fields)
    | some other => if fields.isEmpty then other else .table (layFields [] fields)
    | none => .table (layFields [] fields)
  | value => value

def layFields (under : Layer) : List (String × Value) → Layer
  | [] => under
  | (key, value) :: rest =>
    let key := Unicode.LowerCase.lower key
    layFields (under.insert key (laidOver (under.get? key) value)) rest

end

/-- The fields of a table, and none of anything else. -/
def fieldsOf (value : Value) : Layer := value.fields?.getD []

/-- The items of an array, and none of anything else. -/
def itemsOf (value : Value) : List Value := value.items?.getD []

/-- Items with unset ones added until there is a position, and where it is. A negative position
counts from the end. -/
def reach (items : List Value) (position : Int) : List Value × Nat :=
  match position with
  | .ofNat n => (items ++ List.replicate (n + 1 - items.length) .unset, n)
  | .negSucc n =>
    (List.replicate (n + 1 - items.length) .unset ++ items, items.length - (n + 1))

/-- Lays a value at the end of a path, making tables and arrays of what stands in its way. -/
def layAt (value : Value) : List Step → Value → Value
  | [], _ => value
  | [.field key], under => .table (layFields (fieldsOf under) [(key, value)])
  | .field key :: rest, under =>
    let fields := fieldsOf under
    .table (fields.insert key (layAt value rest ((fields.get? key).getD .unset)))
  | .item position :: rest, under =>
    let (items, place) := reach (itemsOf under) position
    .array (items.modify place (layAt value rest))

/-- Lays the fields of a document over a value; its keys are paths. -/
def layDocument (under : Value) (fields : List (String × Value)) : Value :=
  fields.foldl (fun layer field => layAt field.2 (pathOf field.1) layer) under

def variableHead : String := "refrain_"

/-- A text with a point for every two underscores. -/
def pointed : List Char → List Char
  | '_' :: '_' :: rest => '.' :: pointed rest
  | c :: rest => c :: pointed rest
  | [] => []

/-- The key that a variable sets, when its name has the right start in either case. -/
def variableKey? (name : String) : Option String :=
  (Text.after? variableHead.toList (Unicode.LowerCase.lower name).toList).map fun rest =>
    String.ofList (pointed rest)

def ofVariables (environment : Entries String) : Layer :=
  environment.filterMap fun (name, text) =>
    (variableKey? name).map (·, Value.ofVariable text)

/-- What is set from outside, over everything else. -/
structure Arguments where
  /-- The file to read instead of the usual one. -/
  file : Option String := none
  studioUrl : Option String := none
  storeUrl : Option String := none
  /-- Whether environment variables are left alone. -/
  skipVariables : Bool := false

def studioPath : List Step := [.field "server", .field "studio_url"]

def storePath : List Step := [.field "server", .field "store_url"]

def layText (path : List Step) (text : Option String) (under : Value) : Value :=
  match text with
  | some text => layAt (.text text) path under
  | none => under

/-- The file and the variables, which count over the file. -/
def collected (arguments : Arguments) (file : List (String × Value))
    (environment : Entries String) : Layer :=
  let filed := layDocument (.table []) file
  fieldsOf (if arguments.skipVariables then filed else layDocument filed (ofVariables environment))

/-- Empty addresses, what is collected and the arguments, each over the ones before. -/
def layers (arguments : Arguments) (file : List (String × Value)) (environment : Entries String) :
    Value :=
  let base := layText storePath (some "") (layText studioPath (some "") (.table []))
  let extended := layDocument base (collected arguments file environment)
  layText storePath arguments.storeUrl (layText studioPath arguments.studioUrl extended)

def ofLayers (layer : Value) : Except Fault Settings :=
  match read? Value.source layer with
  | some settings => .ok settings
  | none => .error .malformed

end Stepwise.Settings
