/-
A station left to itself.

`settle` lets the threads of the functions go on until none of them can: the functions are no longer operating, or a
capture is held back, or a run waits out a long period. Time passes only where a run waits for it.
-/
import RemoteShutter.Control.Station

namespace RemoteShutter.Station

/-- what a run does next, if it does anything; while captures are held back none begins -/
def nextOfRun (s : Station) (isHeld : Bool) (i : Nat) (f : CaptureFunction) : RunPoint → Option Event
  | .fire _ _ _ => if isHeld then none else some (.run i)
  | .wait _ deadline =>
    if f.life.isAborted || deadline ≤ s.studio.clock then some (.run i)
    else if f.plan.isLongInterval then none
    else some (.pass (deadline - s.studio.clock))
  | _ => some (.run i)

def nextOfTest (isHeld : Bool) (i : Nat) : TestPoint → Option Event
  | .fire _ _ => if isHeld then none else some (.test i)
  | _ => some (.test i)

/-- what happens next if nobody interferes -/
def next? (s : Station) (isHeld : Bool) : Option Event :=
  s.functions.zipIdx.findSome? fun (f, i) =>
    (f.run.bind (s.nextOfRun isHeld i f)).or (f.test.bind (nextOfTest isHeld i))

/-- at most `fuel` events -/
def settleFor (isHeld : Bool) : Nat → Station → Station
  | 0, s => s
  | fuel + 1, s =>
    match s.next? isHeld with
    | none => s
    | some e => settleFor isHeld fuel (s.step e)

/-- more events than the threads of a function with a limit have left; a run without one is left at some point -/
def enough (f : CaptureFunction) : Nat :=
  match f.plan.shots with
  | .limited n => 10 * (n.toNat + 2)
  | .unbounded => 100000

def settle (s : Station) (isHeld : Bool) : Station :=
  settleFor isHeld ((s.functions.map enough).foldl (· + ·) 0) s

end RemoteShutter.Station
