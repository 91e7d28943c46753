/-
Thresholds: how much of a log is let through.

A threshold is off, or a level; a level lets events of its own and of more urgent levels through. It is written as a name
in any case or as a number from 0 to 5. The empty text stands for errors only.
-/
import RemoteShutter.Log.Event
import RemoteShutter.Text.CharClass
import RemoteShutter.Text.Numeral

namespace RemoteShutter

inductive LogThreshold where
  | off
  | upTo (level : LogLevel)
  deriving DecidableEq, Repr

namespace LogThreshold

def rank : LogThreshold → Nat
  | off => 0
  | upTo level => level.rank

/-- all thresholds, each at the place of its rank -/
def all : List LogThreshold :=
  [off, upTo .error, upTo .warn, upTo .info, upTo .debug, upTo .trace]

def text : LogThreshold → String
  | off => "off"
  | upTo level => lowerCase level.name

def ofText? (s : String) : Option LogThreshold :=
  match Numeral.toNat? s.toList with
  | some n => all[n]?
  | none => if s.isEmpty then some (upTo .error) else all.find? fun t => t.text = lowerCase s

/-- whether events of a level are let through -/
def admits (t : LogThreshold) (level : LogLevel) : Bool :=
  level.rank ≤ t.rank

end LogThreshold

end RemoteShutter
