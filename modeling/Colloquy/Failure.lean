import Colloquy.Ron.Decode
import Colloquy.Storage.Disk
import Colloquy.Toml.Reader

/-!
# Failures

A failure is a cause and the activities in which it arose, outermost first.
-/

namespace Colloquy

inductive Cause where
  /-- A rule of the program was violated. -/
  | rule (message : String)
  | storage (fault : Storage.Fault)
  /-- A RON document could not be read. -/
  | ron (fault : Ron.Fault)
  /-- A TOML document could not be read. -/
  | toml (fault : Toml.Fault)
  deriving DecidableEq

def Cause.message : Cause → String
  | .rule message => message
  | .storage fault => fault.message
  | .ron fault => fault.message
  | .toml fault => fault.message

structure Failure where
  contexts : List String := []
  cause : Cause
  deriving DecidableEq

namespace Failure

/-- The wordings of the activities and of the cause. -/
def chain (failure : Failure) : List String :=
  failure.contexts ++ [failure.cause.message]

def inline (failure : Failure) : String :=
  String.intercalate ": " failure.chain

def within (context : String) (failure : Failure) : Failure :=
  { failure with contexts := context :: failure.contexts }

/-- The failure of a chain of wordings, the last of which is the cause. -/
def ofChain (chain : List String) : Failure where
  contexts := chain.dropLast
  cause := .rule (chain.getLast?.getD "")

end Failure

/-- A file operation within an activity. -/
def doing
    {α : Type} (context : String) (outcome : Except Storage.Fault α) :
    Except Failure α :=
  outcome.mapError fun fault => { contexts := [context], cause := .storage fault }

end Colloquy
