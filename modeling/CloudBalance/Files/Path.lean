import CloudBalance.Text.Split
import CloudBalance.Text.Start

/-!
# Paths

A path is a text with the names of directories between slashes. It is absolute if it starts with a
slash.
-/

namespace CloudBalance.Path

def isAbsolute (path : String) : Bool :=
  Text.hasStart "/" path

/-- The names between the slashes. The name before the first slash of an absolute path is empty. -/
def names (path : String) : List String :=
  Text.split '/' path

/-- The path of `name` in the directory `directory`. -/
def join (directory name : String) : String :=
  if isAbsolute name || directory.isEmpty then name
  else if directory.toList.getLast? = some '/' then directory ++ name
  else directory ++ "/" ++ name

end CloudBalance.Path
