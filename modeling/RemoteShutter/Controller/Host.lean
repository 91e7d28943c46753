/-
The host that the controller runs on, as far as the controller sees it.

A power action is carried out by a program of the host. It fails if the host has no such program, or if the program ends
with a code other than zero.
-/
import RemoteShutter.Control.Station

namespace RemoteShutter

structure Host where
  /-- another server has the port -/
  isPortTaken : Bool := false
  /-- the port that a server gets which does not ask for a certain one -/
  freePort : Nat := 49152
  /-- bytes that a program can have at most -/
  memory : Nat := Nat.pow 2 47
  /-- programs by name, each with the code it ends with -/
  programs : List (String × Nat) := []
  deriving DecidableEq, Repr

/-- the program of the host that carries out an action, and its arguments -/
def PowerAction.command : PowerAction → String × List String
  | shutdown => ("shutdown", ["-h", "now"])
  | reboot => ("reboot", [])

/-- why the controller ends otherwise than it should -/
inductive ControllerError where
  | portTaken (address : String)
  /-- the camera refuses a setting -/
  | setting (message : String)
  | noProgram (name : String)
  | programFailed (name : String) (code : Nat)
  deriving DecidableEq, Repr

def ControllerError.message : ControllerError → String
  | portTaken address => s!"failed to bind {address}: Address already in use (os error 98)"
  | setting message => message
  | noProgram name => s!"failed to run {name}"
  | programFailed name code => s!"{name} exited with exit status: {code}"

namespace Host

/-- the address that a server listens at which asks for `port` -/
def address (h : Host) (port : Nat) : String :=
  let port := if port = 0 then h.freePort else port
  s!"0.0.0.0:{port}"

/-- runs a program -/
def run (h : Host) (name : String) : Except ControllerError Unit :=
  match h.programs.lookup name with
  | none => .error (.noProgram name)
  | some 0 => .ok ()
  | some code => .error (.programFailed name code)

end Host

end RemoteShutter
