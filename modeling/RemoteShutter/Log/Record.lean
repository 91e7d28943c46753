/-
Log records: events with the part of the program that they come from.

A record is printed with its part in front of the message and text values in quotes.
-/
import RemoteShutter.Log.Event
import RemoteShutter.Text.Printable

namespace RemoteShutter

/-- which thread says something -/
inductive LogThread where
  | main
  /-- the one that the main thread waits for while it closes everything -/
  | closing
  deriving DecidableEq, Repr

structure LogRecord where
  /-- the part of the program -/
  target : String
  thread : LogThread := .main
  event : LogEvent
  deriving DecidableEq, Repr

def LogValue.quoted : LogValue → String
  | text s => Quoted.text s
  | worded s => s

namespace LogRecord

def line (r : LogRecord) : String :=
  r.event.values.foldl (fun line (name, value) => line ++ " " ++ name ++ "=" ++ value.quoted)
    (r.event.level.name ++ " " ++ r.target ++ ": " ++ r.event.message)

end LogRecord

end RemoteShutter
