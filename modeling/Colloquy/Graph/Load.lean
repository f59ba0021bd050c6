import Colloquy.Failure
import Colloquy.Graph.Build
import Colloquy.Script.Document

/-!
# Loading graphs

Reads a script from a file and turns it into a graph.
-/

namespace Colloquy.Graph

open Colloquy.Storage (Disk)

def BuildError.failure (error : BuildError) : Failure :=
  Failure.ofChain error.chain

def loadScript (disk : Disk) (path : String) : Except Failure Script := do
  let text ← doing ("reading dialogue from '" ++ path ++ "'") (disk.readText path)
  (Script.ofDocument text).mapError fun fault =>
    { contexts := ["parsing dialogue RON from '" ++ path ++ "'"], cause := .ron fault }

def load (disk : Disk) (path : String) : Except Failure Graph := do
  let script ← (loadScript disk path).mapError
    (.within "while loading dialogue definition")
  (ofScript script).mapError fun error =>
    error.failure.within "while building dialogue graph"

end Colloquy.Graph
