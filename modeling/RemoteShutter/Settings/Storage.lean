/-
Settings in a file.

The file is named by the environment or lies below the home folder. If there is none it is made, with the defaults.
Saving makes the folders above the file, then writes the text if there is one, and leaves the file to its owner alone.
-/
import RemoteShutter.Settings.Toml
import RemoteShutter.Files.Tree
import RemoteShutter.Text.Utf8

namespace RemoteShutter

inductive StorageError where
  /-- the file cannot be read as text -/
  | unreadable (path : String)
  /-- the text is no settings -/
  | invalid (path : String)
  /-- a number is too large to be written -/
  | tooLarge
  | file (e : FileError)
  deriving DecidableEq, Repr

/-- what is said about an error -/
def StorageError.message : StorageError → String
  | unreadable path => s!"failed to read {path}"
  | invalid path => s!"invalid config {path}"
  | tooLarge => "out-of-range value for u64 type"
  | file e => e.message

/-- what the environment says about where settings are -/
structure Environment where
  settingsFile : Option String := none
  home : Option String := none
  deriving DecidableEq, Repr

def Environment.settingsPath (e : Environment) : String :=
  e.settingsFile.getD (Path.join (e.home.getD "/tmp") ".config/camctl/controller.toml")

namespace Settings

/-- saves settings, with what is left of the files if that fails halfway -/
def save (c : Settings) (files : FileTree) (path : String) : Except StorageError Unit × FileTree :=
  match files.createFolders ((Path.parent? path).getD "") with
  | (.error e, files) => (.error (.file e), files)
  | (.ok (), files) =>
    match c.text? with
    | none => (.error .tooLarge, files)
    | some text =>
      match files.write path (Utf8.encode text.toList) with
      | .error e => (.error (.file e), files)
      | .ok files => (.ok (), files.keepPrivate path)

/-- the settings in a file, from its content if it can be read -/
def ofContent (path : String) (content : Option Bytes) : Except StorageError Settings :=
  match content.bind Utf8.decode? with
  | none => .error (.unreadable path)
  | some cs =>
    match ofText? cs with
    | none => .error (.invalid path)
    | some c => .ok c

/-- loads settings; a file that is not there is made -/
def load (files : FileTree) (path : String) : Except StorageError Settings × FileTree :=
  if files.contains path then (ofContent path (files.read path).toOption, files)
  else
    let default : Settings := {}
    let (r, files) := default.save files path
    (r.map fun _ => default, files)

end Settings

end RemoteShutter
