import HttpTap.Log.Line
import HttpTap.Fault
import HttpTap.Value.Key

/-!
# Setting up the log

The library speaks on one channel and the channels below it.  What becomes of its lines is
settled by the threshold of that channel and by the handlers on it.

* `configure` puts one handler with a prefix on the channel, in place of the one that it put
  there before, stops lines from going on to other handlers, and sets the level.
* `setLevel` sets the level alone.

A level is one of five words.  Any other value is a fault, and `configure` meets it last, when
the handler has been replaced already.

## Where a line goes

A line counts if its level reaches the threshold of its channel, or of the nearest one above that
has a threshold; a channel of its own has the threshold of warnings.  A line that counts is
written by every handler on the channel.  Where there is no handler at all, warnings and worse are
written bare.  What is attached to a line follows it in any case.
-/

namespace HttpTap
namespace Log

/-- The levels that can be asked for. -/
inductive Loudness where
  | silent
  | error
  | warn
  | info
  | debug
  deriving DecidableEq

namespace Loudness

/-- The word for a level. -/
def word : Loudness → String
  | silent => "silent"
  | error => "error"
  | warn => "warn"
  | info => "info"
  | debug => "debug"

/-- The levels. -/
def all : List Loudness := [silent, error, warn, info, debug]

/-- The number that a line must reach. -/
def threshold : Loudness → Int
  | silent => 60
  | error => 40
  | warn => 30
  | info => 20
  | debug => 10

/-- The level with a word. -/
def ofWord? (s : String) : Option Loudness := all.find? fun l => l.word == s

end Loudness

/-- The level that a value asks for.  Values that could not be keys are refused by their type. -/
def loudness (v : Value) : Except Fault Loudness :=
  match v with
  | .text s =>
    match Loudness.ofWord? s with
    | some l => .ok l
    | none => .error (.unknownLevel (Text.quoted s))
  | v =>
    if v.isKey then
      match v.literal? with
      | some shown => .error (.unknownLevel shown)
      | none => .error .numeralTooLong
    else .error (.misuse .type "unhashable type")

/-- A handler: an object with a format. -/
structure Handler where
  object : Nat
  format : String
  deriving DecidableEq

/-- How the log is set up. -/
structure Setup where
  /-- The level that was asked for last. -/
  level : Loudness
  /-- The threshold of the library's channel; zero leaves it to the channel above. -/
  threshold : Int
  /-- Do lines go on to the handlers above? -/
  goesOn : Bool
  handlers : List Handler
  /-- The handler that `configure` put there last. -/
  own : Option Handler
  /-- The number of the next handler. -/
  nextObject : Nat

namespace Setup

/-- Before anything is set up. -/
def start : Setup := ⟨.info, 0, true, [], none, 0⟩

/-- The channel of the library. -/
def channel : String := "bodycapture"

/-- The prefix unless another one is given. -/
def standardPrefix : String := "BodyCapture"

/-- The format that a prefix gives. -/
def formatOf (lead : String) : String := "[" ++ lead ++ "] %(levelname)s %(name)s: %(message)s"

/-- Take a handler off the channel. -/
def removeHandler (s : Setup) (h : Handler) : Setup :=
  { s with handlers := s.handlers.filter (·.object != h.object) }

/-- Set the level. -/
def setLevel (v : Value) (s : Setup) : Except Fault Unit × Setup :=
  match loudness v with
  | .ok l => (.ok (), { s with level := l, threshold := l.threshold })
  | .error f => (.error f, s)

/-- Put a new handler on the channel in place of the last one. -/
def replaceHandler (format : String) (s : Setup) : Setup :=
  let cleared := match s.own with
    | some h => s.removeHandler h
    | none => s
  let h : Handler := ⟨s.nextObject, format⟩
  { cleared with
    handlers := cleared.handlers ++ [h]
    own := some h
    nextObject := s.nextObject + 1
    goesOn := false }

/-- Take the last handler off the channel; the new one was made and never got there. -/
def dropHandler (s : Setup) : Setup :=
  let cleared := match s.own with
    | some h => s.removeHandler h
    | none => s
  { cleared with own := some ⟨s.nextObject, ""⟩, nextObject := s.nextObject + 1 }

/-- Set up the log: the level and what the prefix says. -/
def configure (level lead : Value) (s : Setup) : Except Fault Unit × Setup :=
  match lead.display? with
  | some text => (s.replaceHandler (formatOf text)).setLevel level
  | none => (.error .numeralTooLong, s.dropHandler)

/-! ## Writing lines -/

/-- The threshold of channels that belong to nobody. -/
def commonThreshold : Int := 30

/-- Is a channel the library's or below it? -/
def isOurs (name : String) : Bool :=
  name == channel || (channel.toList ++ ['.']).isPrefixOf name.toList

/-- The threshold that holds for a channel. -/
def thresholdOf (s : Setup) (name : String) : Int :=
  if isOurs name && s.threshold != 0 then s.threshold else commonThreshold

/-- Does a line of a level count on a channel? -/
def counts (s : Setup) (name : String) (level : Int) : Bool :=
  decide (s.thresholdOf name ≤ level)

/-- What a handler makes of a line: nothing, if the line has no message or the format of the handler
cannot be filled. -/
def lineOf (h : Handler) (l : Line) : Option String := l.write? h.format

/-- Does a line get to the handlers on the channel? -/
def reaches (s : Setup) (l : Line) : Bool := s.counts l.name l.level && isOurs l.name

/-- What becomes of a line: what the handlers make of it, one after the other. -/
def emit (s : Setup) (l : Line) : List (Option String) :=
  if s.reaches l && !s.handlers.isEmpty then s.handlers.map fun h => lineOf h l
  else if s.counts l.name l.level && decide (commonThreshold ≤ l.level) then
    [l.message.map l.attached]
  else []

/-- The line of a handler with a prefix in which nothing is special. -/
example : lineOf ⟨0, formatOf "Test"⟩ (.plain "bodycapture" 20 "100% %s") =
    some "[Test] INFO bodycapture: 100% %s" := by decide +kernel

end Setup
end Log
end HttpTap
