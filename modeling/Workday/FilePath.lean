/-!
This module contains paths as they are written, with slashes between their names.
-/

namespace Workday.FilePath

def isAbsolute (path : String) : Bool :=
  path.toList.head? == some '/'

/--
A path within a directory. An absolute path stands for itself, whatever the directory is.
-/
def join (directory path : String) : String :=
  if isAbsolute path then path
  else if directory.isEmpty || directory.toList.getLast? == some '/' then directory ++ path
  else directory ++ "/" ++ path

/--
The names in a path. Empty ones, which come from doubled slashes, are left out.
-/
def names (path : String) : List String :=
  ((path.toList.splitOn '/').filter fun name => !name.isEmpty).map String.ofList

/--
Whether a path ends with a slash, so that only a directory can be meant.
-/
def endsInSlash (path : String) : Bool :=
  path.toList.getLast? == some '/'

end Workday.FilePath
