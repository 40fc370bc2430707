import Stepwise.Entries
import Stepwise.Text.Pieces

namespace Stepwise

structure Surroundings (m : Type → Type) where
  /-- The text of a file, if there is such a file. -/
  readFile : String → m (Option String)
  /-- Whether a path leads to a file or a directory. -/
  isThere : String → m Bool
  /-- The text of the file of a name in the working directory or in the nearest one above it. -/
  readNearest : String → m (Option String)
  environment : m (Entries String)

namespace Surroundings

/-- Whether a file lies somewhere in the directory of the given names. -/
def holds (files : Entries String) (names : List String) : Bool :=
  names.isEmpty || files.any fun e => Text.startsWith e.1 (String.intercalate "/" names ++ "/")

/-- The names of the file that a path leads to from the working directory; none when it does not end
in a name, leads out of the directory or upwards from what is no directory. -/
def namesAlong? (files : Entries String) (path : String) : Option (List String) :=
  let parts := (Text.splitOn '/' path.toList).map String.ofList
  if Text.startsWith path "/" || parts.getLast? = some "" || parts.getLast? = some "." then none
  else
    (parts.filter fun part => part ≠ "" ∧ part ≠ ".").foldlM (fun names part =>
      if part ≠ ".." then some (names ++ [part])
      else if names.isEmpty || !holds files names then none
      else some names.dropLast) []

def fileAt? (files : Entries String) (names : List String) : Option String :=
  files.get? (String.intercalate "/" names)

/-- A working directory of given files, with nothing above it. -/
def inMemory (files environment : Entries String) : Surroundings Id where
  readFile path := (namesAlong? files path).bind (fileAt? files)
  isThere path :=
    (namesAlong? files path).any fun names => (fileAt? files names).isSome || holds files names
  readNearest name := files.get? name
  environment := environment

end Surroundings

end Stepwise
