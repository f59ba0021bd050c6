/-!
# Paths

Paths as texts: joining, splitting into components, and the parts of a file
name. A path that begins with a slash is absolute; its first component is the
slash.
-/

namespace Colloquy.Storage

def isAbsolute (path : String) : Bool :=
  path.toList.head? = some '/'

/-- A path below a directory. An absolute one stands for itself. -/
def join (directory path : String) : String :=
  if isAbsolute path || directory.isEmpty then path
  else if directory.toList.getLast? = some '/' then directory ++ path
  else directory ++ "/" ++ path

/-- Splits characters at slashes; there is one piece more than slashes. -/
def splitSlashes : List Char → List (List Char)
  | [] => [[]]
  | c :: rest =>
    if c = '/' then [] :: splitSlashes rest
    else
      match splitSlashes rest with
      | [] => [[c]]
      | piece :: others => (c :: piece) :: others

/-- The components of a path, empty ones included. -/
def components (path : String) : List String :=
  let pieces := (splitSlashes path.toList).map String.ofList
  if isAbsolute path then "/" :: pieces else pieces

/-- Splits a file name at its last point, unless that is its first character. -/
def splitExtension (name : String) : String × Option String :=
  let reversed := name.toList.reverse
  let extension := (reversed.takeWhile (· != '.')).reverse
  match reversed.dropWhile (· != '.') with
  | '.' :: stem => if stem.isEmpty then (name, none)
    else (String.ofList stem.reverse, some (String.ofList extension))
  | _ => (name, none)

def stem (name : String) : String := (splitExtension name).1

def extension? (name : String) : Option String := (splitExtension name).2

end Colloquy.Storage
