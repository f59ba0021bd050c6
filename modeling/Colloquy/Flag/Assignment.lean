import Colloquy.Flag.Store

/-!
# Assignments

A flag write in one line: a bare name sets a presence flag, and `name = value`
sets a flag of the kind that the value's text suggests, integers before numbers
before texts.
-/

namespace Colloquy.Flag

inductive Assignment where
  | bool (name : String)
  | int (name : String) (value : Int32)
  | float (name : String) (value : Number.Single)
  | text (name value : String)
  deriving DecidableEq

namespace Assignment

def ofValue (name value : String) : Assignment :=
  match Number.readInt32? value with
  | some integer => .int name integer
  | none =>
    match Number.readFinite? value with
    | some number => .float name number
    | none => .text name value

/-- Reads an assignment. An empty name and a second equals sign are refused. -/
def read? (input : String) : Option Assignment :=
  let trimmed := Text.trim input
  let beforeEquals := trimmed.toList.takeWhile (· != '=')
  match trimmed.toList.dropWhile (· != '=') with
  | [] => if trimmed.isEmpty then none else some (.bool trimmed)
  | _ :: afterEquals =>
    let name := Text.trim (String.ofList beforeEquals)
    let value := Text.trim (String.ofList afterEquals)
    if name.isEmpty || value.toList.contains '=' then
      none
    else
      some (ofValue name value)

def name : Assignment → String
  | .bool name => name
  | .int name _ => name
  | .float name _ => name
  | .text name _ => name

/-- The store after the write, unless it refuses the name. -/
def write? (store : Store) : Assignment → Option Store
  | .bool name => store.setBool? name
  | .int name value => store.setInt? name value
  | .float name value => store.setFloat? name value
  | .text name value => store.setString? name value

end Assignment

end Colloquy.Flag
