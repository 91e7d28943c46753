/-
Paths as text.

Slashes tell the parts of a path apart. Empty parts and single dots lead nowhere and do not count, but a dot at the
beginning does. The parent of a path is what is left of the text when the last part that counts is taken away with
everything behind it; the root has none, nor has the empty path.
-/

namespace RemoteShutter.Path

/-- the longest path that can be used, in bytes -/
def maxLength : Nat := 4095

/-- the longest part that a path may have, in bytes -/
def maxPart : Nat := 255

/-- the parts of a path, empty ones included -/
def parts (path : String) : List String :=
  (path.toList.splitOn '/').map String.ofList

/-- a folder and a name below it as one path; an absolute name stands for itself -/
def join (folder name : String) : String :=
  if name.startsWith "/" then name
  else if folder.isEmpty || folder.endsWith "/" then folder ++ name
  else folder ++ "/" ++ name

/-- a part that leads nowhere -/
def isIdle (part : String) : Bool :=
  part = "" || part = "."

def parent? (path : String) : Option String :=
  match parts path with
  | [] => none
  | first :: rest =>
    match rest.reverse.dropWhile isIdle with
    | [] => if first.isEmpty then none else some ""
    | _ :: before =>
      match before.dropWhile isIdle with
      | [] => some (if first.isEmpty then "/" else first)
      | kept => some ("/".intercalate (first :: kept.reverse))

/-- a path, its parent, and so on, up to where nothing could be made: at most `n` of them -/
def chain : Nat → String → List String
  | 0, _ => []
  | n + 1, path =>
    if path.isEmpty then []
    else
      match parent? path with
      | none => []
      | some up => path :: chain n up

/-- a path and the folders above it -/
def upwards (path : String) : List String :=
  chain (parts path).length path

end RemoteShutter.Path
