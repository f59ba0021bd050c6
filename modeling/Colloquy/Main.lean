import Colloquy.Program

/-!
# Command line

Runs the program on real files and a real terminal. Files are looked up when
they are named: the settings, the dialogue and its tables before the run, a save
when it is asked for. What a command writes is written through before the player
is told of it.
-/

namespace Colloquy.CommandLine

open Colloquy.Console (Reply)
open Colloquy.Storage (Disk Item)

/-- The code with which the system tells that a file is a directory. -/
def directoryCode : UInt32 := 21

def look (path : String) (time : Int) : IO (Option Item) := do
  try
    let bytes ← IO.FS.readBinFile path
    match String.fromUTF8? bytes with
    | some text => return some (.file (.text text) time)
    | none => return some (.file .undecodable time)
  catch
    | .inappropriateType _ code _ =>
        return if code = directoryCode then some .directory else none
    | _ => return none

def fetch (disk : Disk) (path : String) : IO Disk := do
  match ← look path disk.now with
  | some item => return disk.provide path item
  | none => return disk

/-- Writes what a later disk has more than an earlier one. -/
def writeThrough (before after : Disk) : IO Unit := do
  for (place, item) in before.since after do
    let path := Disk.ofComponents place
    match item with
    | .directory => IO.FS.createDirAll path
    | .file (.text text) _ => IO.FS.writeFile path text
    | .file .undecodable _ => pure ()

def gather (invocation : Program.Invocation) : IO Disk := do
  let places := if invocation.data.isSome then [] else Program.dataDirectories
  let disk ← places.foldlM fetch {}
  let root := Program.dataRoot disk invocation.data
  let disk ← fetch disk (Storage.join root Config.fileName)
  let config := Program.config disk root
  let disk ← fetch disk (config.dialoguePath root)
  match Program.graph disk root config with
  | .error _ => return disk
  | .ok graph =>
    let disk ← fetch disk (config.tablesPath root)
    (Program.tableFiles root config graph).foldlM fetch disk

def present : IO Int := do
  return Int.ofNat (← IO.monoMsNow)

/-- The reply to a line. A save that the line asks for is looked up for this
line alone. -/
def answer (play : Play) (console : Console) (line : InputLine) : IO Reply := do
  let disk := { console.disk with now := ← present }
  let directory := play.saveDirectory
  match line.map Command.read with
  | some (.load slot) =>
    let known ← [directory, Save.path directory slot].foldlM fetch disk
    let reply := play.answer { console with disk := known } line
    return { reply with console.disk := disk }
  | some (.save _) =>
    let known ← fetch disk directory
    let reply := play.answer { console with disk := known } line
    try
      writeThrough known reply.console.disk
      return reply
    catch error =>
      return { console, items := [.problem ("Could not save: " ++ toString error)] }
  | _ => return play.answer { console with disk } line

/-- Reads the bytes of a line, and tells whether a line feed ended it. -/
partial def readLine (input : IO.FS.Stream) (line : Array UInt8) :
    IO (List UInt8 × Bool) := do
  match (← input.read 1).toList with
  | [] => return (line.toList, false)
  | byte :: _ =>
      if byte = 10 then return (line.toList, true) else readLine input (line.push byte)

/-- Asks for lines and replies to them. -/
partial def loop
    (play : Play) (console : Console) (input output : IO.FS.Stream) : IO Unit := do
  output.putStr (play.asked console)
  output.flush
  let line ← readLine input #[]
  unless line.1.isEmpty && !line.2 do
    let reply ← answer play console (InputLine.decode line)
    output.putStr (play.shown reply)
    output.flush
    unless reply.quit do
      loop play reply.console input output

def run (arguments : List String) : IO UInt32 := do
  let output ← IO.getStdout
  let invocation : Program.Invocation := {
    data := ← IO.getEnv Program.dataVariable
    opening := arguments.head?
    coloured :=
      Program.wantsColour (← IO.getEnv "CLICOLOR_FORCE") (← IO.getEnv "NO_COLOR")
      (← IO.getEnv "CLICOLOR") (← output.isTty) }
  let disk ← gather invocation
  match Program.prepare disk invocation with
  | .error failure =>
    (Program.report failure.chain).forM IO.eprintln
    return 1
  | .ok play =>
    output.putStr (Program.greeting invocation.coloured)
    let reply :=
      play.opened { disk := { disk with now := ← present } } invocation.opening
    output.putStr (play.shown reply)
    loop play reply.console (← IO.getStdin) output
    return 0

end Colloquy.CommandLine

/-- Plays the dialogues of the data directory; an argument names the trigger to
start with. -/
def main (arguments : List String) : IO UInt32 :=
  Colloquy.CommandLine.run arguments
