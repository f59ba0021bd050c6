import Colloquy.Completion
import Colloquy.Flag.Expression
import Colloquy.Main
import Colloquy.Number.Shortest
import Colloquy.Program
import Colloquy.Proofs.Condition.Checked
import Colloquy.Proofs.Session.Failures
import Colloquy.Proofs.Console.Courses
import Colloquy.Proofs.Console.Flags
import Colloquy.Proofs.Session.Agreement
import Colloquy.Proofs.Number.Digits
import Colloquy.Proofs.Ron.Layout
import Colloquy.Proofs.Ron.Numbers
import Colloquy.Proofs.Save.Document
import Colloquy.Proofs.Flag.Reachable
import Colloquy.Proofs.Flag.Rebuilding
import Colloquy.Proofs.Flag.TakingOver
import Colloquy.Proofs.Flag.Exporting
import Colloquy.Proofs.Text.Bytes
import Colloquy.Proofs.Storage.Changes
import Colloquy.Proofs.Storage.Walking
import Colloquy.Proofs.Save.Restoring
import Colloquy.Proofs.Save.FileName
import Colloquy.Proofs.Save.Slots
import Colloquy.Proofs.Number.Nearest
import Colloquy.Proofs.Number.Shortest
import Colloquy.Proofs.Graph.Positions
import Colloquy.Proofs.Script.Sorting
import Colloquy.Proofs.Session.Protocol
import Colloquy.Proofs.Session.Selections
import Colloquy.Proofs.Session.Lockstep
import Colloquy.Proofs.Condition.Asking
import Colloquy.Proofs.Condition.Duality
import Colloquy.Proofs.Effect.Acceptance
import Colloquy.Proofs.Effect.Independence
import Colloquy.Proofs.Graph.Caching
import Colloquy.Proofs.Flag.Adding
import Colloquy.Proofs.Flag.Agreement
import Colloquy.Proofs.Session.Influence
import Colloquy.Proofs.Session.Offering
import Colloquy.Proofs.Console.Offers
import Colloquy.Proofs.Command.Reading
import Colloquy.Proofs.Console.Numbers
import Colloquy.Proofs.Console.Triggers
import Colloquy.Proofs.Session.Renewal
import Colloquy.Proofs.Flag.Assigning
import Colloquy.Proofs.Flag.Comparing
import Colloquy.Proofs.Flag.Grammar
import Colloquy.Proofs.Flag.Naming
import Colloquy.Proofs.Session.Branching
import Colloquy.Proofs.Console.Talking
import Colloquy.Proofs.Console.Loading
import Colloquy.Proofs.Save.Discovery
import Colloquy.Proofs.Script.Accounting
import Colloquy.Proofs.Console.AllOrNothing
import Colloquy.Proofs.Console.Removing
import Colloquy.Proofs.Save.Readiness
import Colloquy.Proofs.Completion
import Colloquy.Proofs.Play.Running
