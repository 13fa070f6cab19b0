/-!
# Path names

Parts of a path are separated by slashes; parts that are empty or a single dot do not count.
-/
set_option autoImplicit false

namespace Reattempt.PathName

def isAbsolute (path : String) : Bool := path.startsWith "/"

def parts (path : String) : List String :=
  (path.splitOn "/").filter fun part => part != "" && part != "."

/-- A path without parts that do not count. -/
def tidy (path : String) : String :=
  let body := "/".intercalate (parts path)
  if isAbsolute path then "/" ++ body else if body.isEmpty then "." else body

def within (directory path : String) : String :=
  if isAbsolute path then tidy path else tidy (directory ++ "/" ++ path)

/-- A directory and all directories above it, nearest first, for a path from the top. -/
def upward (directory : String) : List String :=
  let names := parts directory
  (List.range (names.length + 1)).map fun above =>
    "/" ++ "/".intercalate (names.take (names.length - above))

end Reattempt.PathName
