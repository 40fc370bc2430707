import Stepwise.Double.Basic
import Stepwise.Entries

namespace Stepwise

inductive Toml where
  | text (value : String)
  | int (value : Int)
  | float (value : Floating)
  | flag (value : Bool)
  /-- A date, a time or both, in the form in which they are written back. -/
  | moment (written : String)
  | array (items : List Toml)
  | table (fields : List (String × Toml))
deriving Inhabited

namespace Toml

/-- Reads a value at the start of a text, and answers with the text after it. -/
abbrev Reader (α : Type) := List Char → Option (α × List Char)

end Toml

end Stepwise
