import HttpTap.Log.Format

/-!
# Lines and their parts

A line is made of what was said, on which channel and at which level, and of the circumstances: where
in the program and when it was said, by which thread and process, and what the program adds of its
own.  All of these are *parts*, which a format can ask for by name.

Two parts are made only when a line is written.  The message is what was said with the arguments put
in, and if they do not fit there is none and the line is not written; the time in words is there if
the format mentions it anywhere.

## What is attached

A line may be about an error, and it may show from where it was written.  The text of the error and
the text of the calls are no parts.  They follow the line, whatever its format is, each on lines of
its own.
-/

namespace HttpTap
namespace Log

/-- The name of a level in a line. -/
def levelName (level : Int) : String :=
  if level == 50 then "CRITICAL" else if level == 40 then "ERROR" else if level == 30 then "WARNING"
  else if level == 20 then "INFO" else if level == 10 then "DEBUG" else if level == 0 then "NOTSET"
  else "Level " ++ toString level

/-- The parts that every line has, and the time in words.  No circumstance has such a name. -/
def ownParts : List String :=
  ["name", "msg", "args", "levelname", "levelno", "message", "asctime"]

/-- A line that is to be written. -/
structure Line where
  /-- The channel. -/
  name : String
  level : Int
  levelName : String
  /-- What was said, before the arguments are put in. -/
  said : Value
  arguments : Value
  /-- What was said with the arguments put in, if they fit. -/
  message : Option String
  circumstances : Parts
  /-- The time in words. -/
  time : String
  /-- The text of the error that the line is about; empty if there is none. -/
  traceback : String
  /-- The text of the calls that led to the line; empty if it does not show them. -/
  stack : String
  fresh : ∀ part ∈ circumstances, part.1 ∉ ownParts

namespace Line

/-- Circumstances that are the same for every line of a plain program. -/
def plainCircumstances : Parts :=
  [("exc_info", .null), ("exc_text", .null), ("stack_info", .null),
    ("threadName", .text "MainThread"), ("processName", .text "MainProcess")]

/-- A line without arguments in plain circumstances. -/
def plain (name : String) (level : Int) (message : String) : Line where
  name := name
  level := level
  levelName := Log.levelName level
  said := .text message
  arguments := .tuple []
  message := some message
  circumstances := plainCircumstances
  time := ""
  traceback := ""
  stack := ""
  fresh := by decide

/-- Does a text stand somewhere in another one? -/
def standsIn (part : List Char) : List Char → Bool
  | [] => part.isEmpty
  | c :: cs => part.isPrefixOf (c :: cs) || standsIn part cs

/-- Does a format mention the time in words? -/
def mentionsTime (format : String) : Bool := standsIn "%(asctime)".toList format.toList

/-- The parts of a line with its message, with or without the time in words. -/
def parts (l : Line) (message : String) (timed : Bool) : Parts :=
  [("name", .text l.name), ("msg", l.said), ("args", l.arguments), ("levelname", .text l.levelName),
    ("levelno", .int l.level)] ++ l.circumstances ++ [("message", .text message)] ++
    (if timed then [("asctime", .text l.time)] else [])

/-- Put a text on lines of its own behind another one. -/
def follow (front back : String) : String :=
  if back = "" then front
  else if front.toList.getLast? = some '\n' then front ++ back
  else front ++ "\n" ++ back

/-- A text with what is attached to the line. -/
def attached (l : Line) (text : String) : String := follow (follow text l.traceback) l.stack

/-- The line by a format, if it has a message and the format can be filled, with what is attached to
it. -/
def write? (l : Line) (format : String) : Option String :=
  l.message.bind fun message =>
    (Log.write? format (l.parts message (mentionsTime format))).map l.attached

end Line
end Log
end HttpTap
