import Colloquy.Number.Decimal

/-!
# Flag snapshots

The flat form of a flag store: four lists of entries, one for each kind of flag,
in the order in which they were written. A snapshot may repeat names and hold
names that no store accepts.
-/

namespace Colloquy.Flag

/-- The four independent kinds of flags. -/
inductive Kind where
  /-- A flag that is present or absent. -/
  | bool
  | int
  | float
  | string
  deriving DecidableEq, Repr

/-- The word for a kind in messages. -/
def Kind.label : Kind → String
  | .bool => "bool"
  | .int => "int"
  | .float => "float"
  | .string => "string"

/-- The name of a kind in dialogue definitions. -/
def Kind.title : Kind → String
  | .bool => "Bool"
  | .int => "Int"
  | .float => "Float"
  | .string => "String"

structure Snapshot where
  bools : List String := []
  ints : List (String × Int32) := []
  floats : List (String × Number.Single) := []
  strings : List (String × String) := []
  deriving DecidableEq, Inhabited

def Snapshot.size (snapshot : Snapshot) : Nat :=
  snapshot.bools.length + snapshot.ints.length + snapshot.floats.length +
    snapshot.strings.length

def Snapshot.isEmpty (snapshot : Snapshot) : Bool :=
  snapshot.bools.isEmpty && snapshot.ints.isEmpty && snapshot.floats.isEmpty &&
    snapshot.strings.isEmpty

/-- Why a snapshot cannot be taken over as it stands. -/
inductive SnapshotError where
  /-- Two entries of one kind have the same trimmed name. -/
  | duplicateKey (kind : Kind) (key : String)
  | invalidName (kind : Kind) (key : String)
  deriving DecidableEq, Repr

def SnapshotError.message : SnapshotError → String
  | .duplicateKey kind key =>
      "duplicate " ++ kind.label ++ " flag '" ++ key ++ "' in snapshot"
  | .invalidName kind key =>
      "invalid " ++ kind.label ++ " flag name '" ++ key ++ "' in snapshot"

end Colloquy.Flag
