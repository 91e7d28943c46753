/-
The command line: loads the settings, runs the controller, and prints what it says.

The environment names the settings file and the log filter. The program goes on until its standard input ends, which
counts as an interrupt. Nobody can connect to it: there are no sockets here.
-/
import RemoteShutter.Controller.Launch

namespace RemoteShutter

/-- makes a settings file with the defaults, which only its owner may read -/
def makeSettings (path : String) : IO (Except StorageError Settings) := do
  let default : Settings := {}
  match default.text? with
  | none => return .error .tooLarge
  | some text =>
    if let some parent := Path.parent? path then
      if !parent.isEmpty then IO.FS.createDirAll parent
    IO.FS.writeFile path text
    IO.setAccessRights path ⟨⟨true, true, false⟩, {}, {}⟩
    return .ok default

/-- the settings in a file, which is made if it is not there -/
def loadSettings (path : String) : IO (Except StorageError Settings) := do
  match ← (IO.FS.readBinFile path).toBaseIO with
  | .error (.noFileOrDirectory _ _ _) => makeSettings path
  | .error _ => return Settings.ofContent path none
  | .ok content => return Settings.ofContent path (some content.data.toList)

end RemoteShutter

open RemoteShutter

def main : IO UInt32 := do
  let env : Environment := { settingsFile := ← IO.getEnv "CAMCTL_CONFIG", home := ← IO.getEnv "HOME" }
  let loaded ← loadSettings env.settingsPath
  let launch := Launch.ofLoaded loaded (← IO.getEnv "RUST_LOG") {} {}
  for line in launch.opening do IO.println line
  if launch.exit = .code 0 then
    let _ ← (← IO.getStdin).readToEnd
  for line in launch.closing do IO.println line
  if let some complaint := launch.complaint then IO.eprintln complaint
  match launch.exit with
  | .code n => return n.toUInt32
  | .signal n => return (128 + n).toUInt32
