import Colloquy.Proofs.Console.Flags
import Colloquy.Proofs.Play.Lines
import Mathlib.Data.List.ReduceOption

/-!
# Runs over lines

A run over lines of input is the fold of execution over the commands that the
lines enter, up to the first that leaves. Every line before is prompted for and
replied to once, whether it is text or not, and it does not matter how lines
end.
-/

namespace Colloquy.Play

open Colloquy.Console (Reply)
open Colloquy.InputLine (IsInput entry ofBytes)

def heard (play : Play) (console : Console) : Option Command → Reply
  | some command => console.execute play.toSetting command
  | none => { console, items := [.problem "Failed to read input. Try again."] }

/-- The commands entered up to the first that leaves. -/
def commandsOf (entries : List (Option Command)) : List Command :=
  (entries.takeWhile (· ≠ some .quit)).reduceOption

/-- The console after the opening talk and the commands entered. -/
def reached (play : Play) (start : Console) (opening : Option String)
    (entries : List (Option Command)) : Console :=
  Console.after play.toSetting start
    ((opening.map Command.talk).toList ++ commandsOf entries)

/-- A run from given entries: what it comes to, and its prompts and replies in order. -/
structure Follows (play : Play) (start : Console) (opening : Option String)
    (entries : List (Option Command)) (outcome : Outcome) : Prop where
  console : outcome.console = play.reached start opening entries
  opened : outcome.output[0]? = some (play.shown (play.opened start opening))
  answered :
    ∀ earlier entry later, entries = earlier ++ entry :: later → some .quit ∉ earlier →
      outcome.output[2 * earlier.length + 1]? =
          some (play.asked (play.reached start opening earlier)) ∧
        outcome.output[2 * earlier.length + 2]? =
          some (play.shown (play.heard (play.reached start opening earlier) entry))
  left :
    ∀ earlier later, entries = earlier ++ some .quit :: later → some .quit ∉ earlier →
      outcome.output.length = 2 * earlier.length + 3
  ended :
    some .quit ∉ entries →
      outcome.output.length = 2 * entries.length + 2 ∧
        outcome.output[2 * entries.length + 1]? = some (play.asked outcome.console)

section Running

variable {play : Play}

private theorem answer_eq_heard (console : Console) (line : InputLine) :
    play.answer console line = play.heard console (line.map Command.read) := by
  cases line with
  | none =>
      rfl
  | some text =>
      rfl

private theorem quit_heard_iff {console : Console} {entry : Option Command} :
    (play.heard console entry).quit = true ↔ entry = some .quit := by
  cases entry with
  | none =>
      simp [heard]
  | some command =>
      rw [heard, Console.quit_execute_iff, Option.some_inj]

private theorem console_heard (console : Console) (entry : Option Command) :
    (play.heard console entry).console =
      Console.after play.toSetting console entry.toList := by
  cases entry with
  | none =>
      rfl
  | some command =>
      rfl

end Running

/-- The prompts and replies of entries that do not leave. -/
def turns (play : Play) (console : Console) : List (Option Command) → List String
  | [] => []
  | entry :: rest =>
    play.asked console :: play.shown (play.heard console entry) ::
      turns play (play.heard console entry).console rest

/-- An outcome behind what was shown before. -/
def Outcome.behind (outcome : Outcome) (before : List String) : Outcome where
  console := outcome.console
  output := before ++ outcome.output

section Turns

variable (play : Play) (console : Console)

/-- Each entry before the run ends has the prompt and the answer as its output. -/
private theorem length_turns (entries : List (Option Command)) :
    (play.turns console entries).length = 2 * entries.length := by
  induction entries generalizing console with
  | nil =>
      rfl
  | cons entry rest inductionHypothesis =>
      rw [turns, List.length_cons, List.length_cons, inductionHypothesis,
        List.length_cons]
      omega

private theorem length_behind_turns
    (first : String) (earlier : List (Option Command)) (since : Outcome) :
    (since.behind (first :: play.turns console earlier)).output.length =
      2 * earlier.length + 1 + since.output.length := by
  rw [Outcome.behind, List.cons_append, List.length_cons, List.length_append,
    length_turns]
  omega

private theorem getElem?_behind_turns
    (first : String) (earlier : List (Option Command)) (since : Outcome) (index : Nat) :
    (since.behind (first :: play.turns console earlier)).output[2 * earlier.length + 1 +
      index]? =
      since.output[index]? := by
  have length :
      (first :: play.turns console earlier).length = 2 * earlier.length + 1 := by
    rw [List.length_cons, length_turns]
  rw [Outcome.behind, List.getElem?_append_right (by omega), length,
    Nat.add_sub_cancel_left]

end Turns

def replay (play : Play) (console : Console) : List (Option Command) → Outcome
  | [] => ⟨console, [play.asked console]⟩
  | entry :: rest =>
    let reply := play.heard console entry
    (if reply.quit then ⟨reply.console, []⟩ else play.replay reply.console rest).behind
      [play.asked console, play.shown reply]

section Replay

variable {play : Play}

private theorem runLines_eq_replay (console : Console) (lines : List InputLine) :
    play.runLines console lines =
      play.replay console (lines.map (Option.map Command.read)) := by
  induction lines generalizing console with
  | nil =>
      rfl
  | cons line rest inductionHypothesis =>
      rw [runLines, List.map_cons, replay, answer_eq_heard]
      simp only [inductionHypothesis, Outcome.behind, List.cons_append, List.nil_append]

private theorem replay_cons_quit (console : Console) (rest : List (Option Command)) :
    play.replay console (some .quit :: rest) =
      ⟨console, [play.asked console, play.shown (play.heard console (some .quit))]⟩ :=
        by
  rw [replay, if_pos (quit_heard_iff.2 rfl)]
  rfl

/-- Entries that do not leave are taken one after another, and the run goes on
behind them. -/
theorem replay_append
    {earlier : List (Option Command)}
    (stays : some .quit ∉ earlier)
    (console : Console) (later : List (Option Command)) :
    play.replay console (earlier ++ later) =
      (play.replay (Console.after play.toSetting console earlier.reduceOption)
        later).behind
        (play.turns console earlier) := by
  induction earlier generalizing console with
  | nil =>
      rfl
  | cons entry rest inductionHypothesis =>
      have headStays : entry ≠ some .quit := (List.ne_of_not_mem_cons stays).symm
      have restStays : some .quit ∉ rest := List.not_mem_of_not_mem_cons stays
      have sameConsole :
          Console.after play.toSetting
            (play.heard console entry).console rest.reduceOption =
            Console.after play.toSetting console (entry :: rest).reduceOption := by
        rw [console_heard, ← Console.after_append]
        cases entry with
        | none =>
            rfl
        | some command =>
            rfl
      rw [List.cons_append, replay, if_neg (mt quit_heard_iff.1 headStays),
        inductionHypothesis restStays, sameConsole]
      rfl

end Replay

/-! ## Whole runs -/

section Runs

variable {play : Play}

private theorem commandsOf_append
    {earlier : List (Option Command)}
    (stays : some .quit ∉ earlier)
    (later : List (Option Command)) :
    commandsOf (earlier ++ later) = earlier.reduceOption ++ commandsOf later := by
  have allStay : ∀ entry ∈ earlier, decide (entry ≠ some .quit) = true := by
    intro entry member
    exact decide_eq_true fun leaves => stays (leaves ▸ member)
  rw [commandsOf, List.takeWhile_append_of_pos allStay, List.reduceOption_append,
    commandsOf]

private theorem reached_append
    {earlier : List (Option Command)}
    (stays : some .quit ∉ earlier)
    (start : Console) (opening : Option String) (later : List (Option Command)) :
    play.reached start opening (earlier ++ later) =
      Console.after play.toSetting
        (Console.after play.toSetting (play.opened start opening).console
          earlier.reduceOption)
        (commandsOf later) := by
  have opened : (play.opened start opening).console =
      Console.after play.toSetting start (opening.map Command.talk).toList := by
    cases opening with
    | none =>
        rfl
    | some trigger =>
        rfl
  rw [reached, commandsOf_append stays, opened, ← Console.after_append,
    ← Console.after_append]

private theorem reached_of_stays
    {earlier : List (Option Command)}
    (stays : some .quit ∉ earlier)
    (start : Console) (opening : Option String) :
    play.reached start opening earlier =
      Console.after play.toSetting
        (play.opened start opening).console earlier.reduceOption := by
  calc
    play.reached start opening earlier =
      play.reached start opening (earlier ++ []) := by
      rw [List.append_nil]
    _ = _ := reached_append stays start opening []

/-- A run over lines replays their commands behind what the opening shows. -/
private theorem run_eq_replay
    (start : Console) (opening : Option String) (lines : List InputLine) :
    play.run start opening lines =
      (play.replay (play.opened start opening).console
        (lines.map (Option.map Command.read))).behind
          [play.shown (play.opened start opening)] := by
  rw [run, runLines_eq_replay]
  rfl

private theorem run_of_entered
    {earlier later : List (Option Command)}
    (stays : some .quit ∉ earlier)
    {lines : List InputLine}
    (entered : lines.map (Option.map Command.read) = earlier ++ later)
    (start : Console) (opening : Option String) :
    play.run start opening lines =
      (play.replay (play.reached start opening earlier) later).behind
        (play.shown (play.opened start opening) ::
          play.turns (play.opened start opening).console earlier) := by
  rw [run_eq_replay, entered, replay_append stays, ← reached_of_stays stays]
  rfl

/-- The first entry that leaves cuts the run; without one it goes on to the end
of the input. -/
private theorem run_follows
    (start : Console) (opening : Option String) (lines : List InputLine) :
    Follows play start opening (lines.map (Option.map Command.read))
      (play.run start opening lines) where
  console := by
    by_cases leaves : some .quit ∈ lines.map (Option.map Command.read)
    · obtain ⟨earlier, later, entered, stays⟩ := List.eq_append_cons_of_mem leaves
      rw [run_of_entered stays entered, entered, reached_append stays, replay_cons_quit,
        reached_of_stays stays]
      rfl
    · rw [run_of_entered leaves (List.append_nil _).symm]
      rfl
  opened := rfl
  answered := by
    intro earlier entry later entered stays
    rw [run_of_entered stays entered]
    exact ⟨getElem?_behind_turns play _ _ earlier _ 0,
      getElem?_behind_turns play _ _ earlier _ 1⟩
  left := by
    intro earlier later entered stays
    rw [run_of_entered stays entered, length_behind_turns, replay_cons_quit]
    rfl
  ended := by
    intro stays
    rw [run_of_entered stays (List.append_nil _).symm, length_behind_turns]
    exact ⟨rfl, getElem?_behind_turns play _ _ _ _ 0⟩

/-- A run over the bytes of lines ends with what the commands of the lines come
to, up to the first that leaves; prompts and replies alternate until then; and
it is the same however the lines end. -/
theorem run_executes_lines
    (play : Play) (start : Console) (opening : Option String)
    {lines : List (List UInt8)} {bytes : List UInt8}
    (noFeed : ∀ line ∈ lines, 10 ∉ line)
    (isInput : IsInput lines bytes) :
    Follows play start opening (lines.map entry)
      (play.run start opening (ofBytes bytes)) ∧
      ∀ other, IsInput lines other →
        play.run start opening (ofBytes other) =
          play.run start opening (ofBytes bytes) := by
  have entered : (ofBytes bytes).map (Option.map Command.read) = lines.map entry :=
    InputLine.map_read_ofBytes noFeed isInput
  constructor
  · rw [← entered]
    exact run_follows start opening (ofBytes bytes)
  · intro other isOther
    rw [run_eq_replay, run_eq_replay, InputLine.map_read_ofBytes noFeed isOther,
      entered]

end Runs

def quietPlay : Play where
  toSetting := Console.developing

/-- The second line is no text, and the third one is empty. -/
def goldScript : List (List UInt8) :=
  [Text.bytes "set gold=1", [0xC3], [], Text.bytes "exit", Text.bytes "set gold=2"]

def goldInput : List UInt8 :=
  Text.bytes "set gold=1\r\n" ++ 0xC3 :: Text.bytes "\n\r\nexit\nset gold=2"

theorem run_executes_goldScript :
    (∀ line ∈ goldScript, 10 ∉ line) ∧ IsInput goldScript goldInput ∧
      (quietPlay.run {} (some "bo") (ofBytes goldInput)).console.flags.int? "gold" =
        some 1 ∧
        (quietPlay.run {} (some "bo") (ofBytes goldInput)).output.length = 9 ∧
          quietPlay.run {} (some "bo") (ofBytes (goldInput ++ [10])) =
            quietPlay.run {} (some "bo") (ofBytes goldInput) := by
  have noFeed : ∀ line ∈ goldScript, 10 ∉ line := by decide
  have isInput : IsInput goldScript goldInput :=
    .returned _ (.fed _ (.returned _ (.fed _ (.unended (by decide)))))
  have isLonger : IsInput goldScript (goldInput ++ [10]) :=
    .returned _ (.fed _ (.returned _ (.fed _ (.fed _ .empty))))
  obtain ⟨follows, same⟩ := run_executes_lines quietPlay {} (some "bo") noFeed isInput
  have entered : goldScript.map entry =
      [some (.set (.int "gold" 1)), none, some .advance] ++ some .quit ::
        [some (.set (.int "gold" 2))] := by
    decide +kernel
  refine ⟨noFeed, isInput, ?_, ?_, same _ isLonger⟩
  · rw [follows.console, entered]
    decide +kernel
  · exact follows.left _ _ entered (by decide)

end Colloquy.Play
