/-
Pictures on the camera's storage.

The pictures of the camera are numbered from one and named after their numbers, with at least four digits. A name is
recognised by its number, which may have any number of zeros or one plus sign in front.
-/
import RemoteShutter.Text.Numeral

namespace RemoteShutter

structure Shot where
  folder : String
  name : String
  deriving DecidableEq, Repr

namespace Shot

/-- the folder that all pictures go to -/
def cameraFolder : String := "/store_00010001/DCIM/100CAMCT"

def namePrefix : List Char := ['I', 'M', 'G', '_']
def nameSuffix : List Char := ['.', 'J', 'P', 'G']

def ofNumber (n : Nat) : Shot where
  folder := cameraFolder
  name := String.ofList (namePrefix ++ Numeral.padded 4 n ++ nameSuffix)

/-- what is left without a given beginning -/
def dropPrefix? : List Char → List Char → Option (List Char)
  | [], cs => some cs
  | _ :: _, [] => none
  | p :: ps, c :: cs => if p = c then dropPrefix? ps cs else none

/-- what is left without a given end -/
def dropSuffix? (suffix cs : List Char) : Option (List Char) :=
  (dropPrefix? suffix.reverse cs.reverse).map List.reverse

/-- the number that the name of a picture of the camera stands for -/
def number? (s : Shot) : Option Nat :=
  if s.folder = cameraFolder then do
    let rest ← dropPrefix? namePrefix s.name.toList
    let middle ← dropSuffix? nameSuffix rest
    Numeral.toNat? middle
  else none

/-- folder and name as one path, with a single slash between them -/
def text (s : Shot) : String :=
  String.ofList (s.folder.toList.reverse.dropWhile (· = '/')).reverse ++ "/" ++ s.name

end Shot

end RemoteShutter
