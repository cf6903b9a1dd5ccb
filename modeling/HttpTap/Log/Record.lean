import HttpTap.Fault

/-!
# Log records

What the library says about its own work goes to its log: the level, the channel (the part of
the library that speaks), the message, and the kind of the fault that gave rise to it.
-/

namespace HttpTap

/-- The levels at which the library speaks. -/
inductive LogLevel where
  | debug
  | info
  | warning
  | error
  deriving DecidableEq

/-- One line of the log. -/
structure LogRecord where
  level : LogLevel
  channel : String
  message : String
  fault : Option FaultKind
  deriving DecidableEq

namespace LogLevel

/-- The word under which a line shows the level. -/
def name : LogLevel → String
  | debug => "DEBUG"
  | info => "INFO"
  | warning => "WARNING"
  | error => "ERROR"

end LogLevel

namespace LogRecord

/-- A line about a fault that was contained. -/
def contained (channel message : String) (f : Fault) : LogRecord :=
  ⟨.debug, channel, message, some f.kind⟩

/-- A line for those who follow the work closely. -/
def detail (channel message : String) : LogRecord := ⟨.debug, channel, message, none⟩

/-- A line about something that the operator of the program should mend. -/
def complaint (channel message : String) : LogRecord := ⟨.warning, channel, message, none⟩

end LogRecord
end HttpTap
