import HttpTap.Log.Setup
import HttpTap.Value.Named

/-!
# Scenarios of logging

Commands that set up the log, look at how it is set up, and write lines.
-/

namespace HttpTap
namespace Log

/-- A command. -/
inductive Command where
  /-- Set up the log by what is given of level and prefix. -/
  | configure (given : Named)
  | setLevel (level : Value)
  | look
  | emit (name : String) (level : Int) (message : String)
  | counts (name : String) (level : Int)

/-- The answer to a command. -/
inductive Answer where
  /-- How the log is set up: level, threshold, whether lines go on, number of handlers. -/
  | setup (level : Loudness) (threshold : Int) (goesOn : Bool) (handlers : Nat)
  /-- The lines that were written; a missing one stands for a format that could not be filled. -/
  | lines (ls : List (Option String))
  | flag (b : Bool)

/-- How the log is set up. -/
def answerOf (s : Setup) : Answer := .setup s.level s.threshold s.goesOn s.handlers.length

/-- Set up the log. -/
def configure (given : Named) (s : Setup) : Except Fault Unit × Setup :=
  match given.among ["log_level", "prefix"] with
  | .ok given =>
    s.configure (given.get "log_level" (.text Loudness.info.word))
      (given.get "prefix" (.text Setup.standardPrefix))
  | .error f => (.error f, s)

/-- Carry out one command. -/
def step (s : Setup) : Command → Except Fault Answer × Setup
  | .configure given =>
    let (outcome, s) := configure given s
    (outcome.map fun () => answerOf s, s)
  | .setLevel level =>
    let (outcome, s) := s.setLevel level
    (outcome.map fun () => answerOf s, s)
  | .look => (.ok (answerOf s), s)
  | .emit name level message => (.ok (.lines (s.emit (.plain name level message))), s)
  | .counts name level => (.ok (.flag (s.counts name level)), s)

/-- Carry out a list of commands. -/
def run (s : Setup) : List Command → List (Except Fault Answer)
  | [] => []
  | c :: cs =>
    let (outcome, s) := step s c
    outcome :: run s cs

end Log
end HttpTap
