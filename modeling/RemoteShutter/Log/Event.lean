/-
Log events: what the controller says about its work.

An event has a level, a message and named values. A value is either text, which some renderings quote, or something
already worded. `LogEvent.line` renders an event bare.
-/

namespace RemoteShutter

inductive LogLevel where
  | error
  | warn
  | info
  | debug
  | trace
  deriving DecidableEq, Repr

inductive LogValue where
  | text (s : String)
  | worded (s : String)
  deriving DecidableEq, Repr

structure LogEvent where
  level : LogLevel
  message : String
  values : List (String × LogValue) := []
  deriving DecidableEq, Repr

namespace LogLevel

def name : LogLevel → String
  | error => "ERROR"
  | warn => "WARN"
  | info => "INFO"
  | debug => "DEBUG"
  | trace => "TRACE"

/-- how much a level lets through: the higher, the more -/
def rank : LogLevel → Nat
  | error => 1
  | warn => 2
  | info => 3
  | debug => 4
  | trace => 5

end LogLevel

namespace LogValue

def bare : LogValue → String
  | text s => s
  | worded s => s

def ofBool (b : Bool) : LogValue :=
  worded (if b then "true" else "false")

def ofNat (n : Nat) : LogValue :=
  worded s!"{n}"

end LogValue

namespace LogEvent

/-- the message and the values, each after a blank -/
def words (e : LogEvent) : String :=
  e.values.foldl (fun line (name, value) => line ++ " " ++ name ++ "=" ++ value.bare) e.message

def line (e : LogEvent) : String :=
  e.level.name ++ " " ++ e.words

end LogEvent

end RemoteShutter
