/-
The file tree that the controller works in.

A tree holds folders and files by their path below the working folder. Paths are given as text and walked part by part:
every part but the last must be a folder. Of the world outside there are at first only its root, the folder of devices
and the null device, which takes everything that is written to it.

Writing replaces a file or makes a new one, and changes nothing else. A write that fails changes nothing. Making a folder
makes the folders above it too; where that fails, those that have been made stay.
-/
import RemoteShutter.Files.Path
import RemoteShutter.Frame.Basic

namespace RemoteShutter

inductive FileError where
  | notFound
  | alreadyThere
  | notFolder
  | isFolder
  | nameTooLong
  | zeroByte
  deriving DecidableEq, Repr

def FileError.message : FileError → String
  | notFound => "No such file or directory (os error 2)"
  | alreadyThere => "File exists (os error 17)"
  | notFolder => "Not a directory (os error 20)"
  | isFolder => "Is a directory (os error 21)"
  | nameTooLong => "File name too long (os error 36)"
  | zeroByte => "file name contained an unexpected NUL byte"

inductive FileEntry where
  | folder
  /-- a file that only its owner may read, or anyone -/
  | file (content : Bytes) (isPrivate : Bool)
  deriving DecidableEq, Repr

/-- where a path leads: below the working folder, or elsewhere -/
inductive Place where
  | inside (parts : List String)
  | outside (parts : List String)
  deriving DecidableEq, Repr

structure FileTree where
  entries : List (Place × FileEntry) := []
  deriving DecidableEq, Repr

namespace FileTree

/-- the null device -/
def nullDevice : Place := .outside ["dev", "null"]

/-- what is at a place -/
def entry? (t : FileTree) (place : Place) : Option FileEntry :=
  if place = .inside [] ∨ place = .outside [] ∨ place = .outside ["dev"] then some .folder
  else if place = nullDevice then some (.file [] false)
  else t.entries.lookup place

/-- one part further -/
def follow (place : Place) (part : String) : Place :=
  if Path.isIdle part then place
  else if part = ".." then
    match place with
    | .inside [] => .outside []
    | .inside parts => .inside parts.dropLast
    | .outside parts => .outside parts.dropLast
  else
    match place with
    | .inside parts => .inside (parts ++ [part])
    | .outside parts => .outside (parts ++ [part])

/-- walks all parts but the last, which is returned with the folder it belongs to -/
def walk (t : FileTree) (place : Place) : List String → Except FileError (Place × String)
  | [] => .ok (place, "")
  | part :: rest =>
    match t.entry? place with
    | none => .error .notFound
    | some (.file _ _) => .error .notFolder
    | some .folder =>
      match rest with
      | [] => .ok (place, part)
      | _ :: _ => if Path.maxPart < part.utf8ByteSize then .error .nameTooLong else walk t (follow place part) rest

/-- a path without the slashes at its end -/
def trimmed (path : String) : String :=
  String.ofList (path.toList.reverse.dropWhile (· = '/')).reverse

/-- the folder that a path leads through, and its last part -/
def locate (t : FileTree) (path : String) : Except FileError (Place × String) :=
  if path.toList.contains '\x00' then .error .zeroByte
  else if path.isEmpty then .error .notFound
  else if Path.maxLength < path.utf8ByteSize then .error .nameTooLong
  else t.walk (if path.startsWith "/" then .outside [] else .inside []) (Path.parts (trimmed path))

/-- the place of the last part of a path -/
def place (folder : Place) (last : String) : Except FileError Place :=
  if Path.maxPart < last.utf8ByteSize then .error .nameTooLong else .ok (follow folder last)

/-- where a path leads, and what is there -/
def find (t : FileTree) (path : String) : Except FileError (Place × FileEntry) := do
  let (folder, last) ← t.locate path
  let p ← place folder last
  match t.entry? p with
  | none => throw .notFound
  | some e => if path.endsWith "/" && e ≠ .folder then throw .notFolder else return (p, e)

/-- puts an entry at a place -/
def put (t : FileTree) (p : Place) (e : FileEntry) : FileTree :=
  if p = nullDevice then t else ⟨(p, e) :: t.entries.filter fun (q, _) => q ≠ p⟩

/-- a last part that is no name of its own -/
def isUnnamed (last : String) : Bool :=
  Path.isIdle last || last = ".."

/-- writes a file -/
def write (t : FileTree) (path : String) (content : Bytes) : Except FileError FileTree := do
  let (folder, last) ← t.locate path
  if path.endsWith "/" || isUnnamed last then throw .isFolder
  let p ← place folder last
  match t.entry? p with
  | some .folder => throw .isFolder
  | some (.file _ isPrivate) => return t.put p (.file content isPrivate)
  | none => return t.put p (.file content false)

/-- the content of a file -/
def read (t : FileTree) (path : String) : Except FileError Bytes := do
  match ← t.find path with
  | (_, .folder) => throw .isFolder
  | (_, .file content _) => return content

/-- whether there is anything at a path -/
def contains (t : FileTree) (path : String) : Bool :=
  (t.find path).toOption.isSome

/-- whether there is a folder at a path -/
def isFolder (t : FileTree) (path : String) : Bool :=
  (t.find path).toOption.any (·.2 = .folder)

/-- a file is left to its owner alone -/
def keepPrivate (t : FileTree) (path : String) : FileTree :=
  match t.find path with
  | .ok (p, .file content _) => t.put p (.file content true)
  | _ => t

/-! ## Making folders -/

/-- makes a folder in one that is there -/
def makeFolder (t : FileTree) (path : String) : Except FileError FileTree := do
  let (folder, last) ← t.locate path
  if isUnnamed last then throw .alreadyThere
  let p ← place folder last
  match t.entry? p with
  | some _ => throw .alreadyThere
  | none => return t.put p .folder

/-- makes a folder unless it is there -/
def ensureFolder (t : FileTree) (path : String) : Except FileError FileTree :=
  match t.makeFolder path with
  | .error .alreadyThere => if t.isFolder path then .ok t else .error .alreadyThere
  | r => r

/-- goes up a path to the first folder that is there or can be made, and says which below it are left to be made -/
def ensureHighest (t : FileTree) (left : List String) : List String → Except FileError (FileTree × List String)
  | [] => .ok (t, left)
  | path :: above =>
    match t.ensureFolder path with
    | .ok t => .ok (t, left)
    | .error .notFound => ensureHighest t (path :: left) above
    | .error e => .error e

/-- makes folders one after the other, up to the first that cannot be made -/
def ensureAll (t : FileTree) : List String → Except FileError Unit × FileTree
  | [] => (.ok (), t)
  | path :: rest =>
    match t.ensureFolder path with
    | .ok t => ensureAll t rest
    | .error e => (.error e, t)

/-- makes a folder and all folders above it; the empty path needs nothing -/
def createFolders (t : FileTree) (path : String) : Except FileError Unit × FileTree :=
  match t.ensureHighest [] (Path.upwards path) with
  | .ok (t, left) => t.ensureAll left
  | .error e => (.error e, t)

/-! ## Listing -/

/-- all files below the working folder with their paths, in the order of the paths -/
def files (t : FileTree) : List (String × Bytes) :=
  let all := t.entries.filterMap fun entry =>
    match entry with
    | (.inside parts, .file content _) => some ("/".intercalate parts, content)
    | _ => none
  all.mergeSort fun a b => a.1 ≤ b.1

end FileTree

end RemoteShutter
