/-
A launch of the controller as a program: from its settings to its exit code.

Settings that cannot be loaded or used end the program before it prints anything, and so does a send buffer for which
there is no memory. Otherwise it runs until it is interrupted, or until a thread of its link gets no memory, and prints
the records that its log filter admits. A filter that is malformed stands for the usual one.
-/
import RemoteShutter.Controller.Basic
import RemoteShutter.Log.Filter
import RemoteShutter.Settings.Storage

namespace RemoteShutter

/-- how a program ends -/
inductive Exit where
  | code (n : Nat)
  /-- it is stopped by a signal -/
  | signal (n : Nat)
  deriving DecidableEq, Repr

/-- what a launch leaves -/
structure Launch where
  exit : Exit
  /-- the records printed before it is interrupted, and after -/
  opening : List String := []
  closing : List String := []
  /-- what is said about an error, if there is one -/
  complaint : Option String := none
  files : FileTree

namespace Launch

/-- all lines printed; a value that ends a line in its middle makes two of it -/
def lines (l : Launch) : List String :=
  (l.opening ++ l.closing).flatMap fun line => line.splitOn "\n"

/-- what is said about an error that ends the program -/
def complaintOf (message : String) : String :=
  s!"Error: {message}"

/-- the program ends with an error before it prints anything -/
def refused (message : String) (files : FileTree) : Launch :=
  { exit := .code 1, complaint := some (complaintOf message), files := files }

/-- the signal that ends a program which gets no memory -/
def abortSignal : Nat := 6

/-- the program does not get memory that it asks for -/
def withoutMemory (size : Nat) (opening : List String) (files : FileTree) : Launch :=
  { exit := .signal abortSignal, opening := opening, complaint := some s!"memory allocation of {size} bytes failed",
    files := files }

/-- the first size that the threads of the link ask for and do not get: the receiver asks first, then the sender -/
def starving? (settings : Settings) (host : Host) : Option Nat :=
  [settings.recvChunk.toNat, settings.sendChunk.toNat].find? (host.memory ≤ ·)

/-- the code of a program that gives up on something it did not expect -/
def giveUpCode : Nat := 101

/-- the program gives up on its log filter; the first line of what it says is empty -/
def givenUp (files : FileTree) : Launch :=
  { exit := .code giveUpCode, complaint := some "\nthe log filter is cut within a character", files := files }

/-- the filter for what is printed; none if it is cut within a character -/
def filterOf? : Option String → Option LogFilter
  | none => some .infos
  | some text =>
    match LogFilter.ofText text with
    | .ok filter => some filter
    | .error .malformed => some .infos
    | .error .withinCharacter => none

def programTarget : String := "camctl"

def version : String := "0.1.0"

def greeting (settings : Settings) : LogRecord :=
  { target := programTarget
    event := ⟨.info, "starting camctl controller", [("version", .text version), ("port", .ofNat settings.port.toNat),
      ("download_folder", .worded settings.downloadFolder)]⟩ }

def farewell : LogRecord :=
  { target := programTarget, event := ⟨.info, "controller shut down cleanly", []⟩ }

/-- the lines that a filter lets through -/
def printed (filter : LogFilter) (rs : List LogRecord) : List String :=
  (rs.filter filter.admits).map LogRecord.line

/-- runs the controller with settings that can be used until it is interrupted; nobody connects meanwhile -/
def ofSettings (settings : Settings) (link : Link) (filter : LogFilter) (host : Host) (files : FileTree) : Launch :=
  match Controller.start settings host link files with
  | (.error e, c) =>
    { exit := .code 1, opening := printed filter (greeting settings :: c.log),
      complaint := some (complaintOf e.message), files := c.station.studio.files }
  | (.ok (), c) =>
    let opening := printed filter (greeting settings :: c.log)
    match starving? settings host with
    | some size => withoutMemory size opening c.station.studio.files
    | none =>
      match ({ c with log := [] } : Controller).settle.interrupt with
      | (.error e, c) =>
        { exit := .code 1, opening := opening, closing := printed filter c.log,
          complaint := some (complaintOf e.message), files := c.station.studio.files }
      | (.ok (), c) =>
        { exit := .code 0, opening := opening, closing := printed filter (c.log ++ [farewell]),
          files := c.station.studio.files }

/-- goes on once the settings have been loaded, or have not -/
def ofLoaded (loaded : Except StorageError Settings) (filter : Option String) (host : Host) (files : FileTree) :
    Launch :=
  match loaded with
  | .error e => refused e.message files
  | .ok settings =>
    match settings.check with
    | .error e => refused e.message files
    | .ok () =>
      if host.memory ≤ settings.sendBuffer.toNat then withoutMemory settings.sendBuffer.toNat [] files
      else
        match Link.ofConfig? settings.link with
        | none => refused Ring.zeroCapacity files
        | some link =>
          match filterOf? filter with
          | none => givenUp files
          | some filter => ofSettings settings link filter host files

/-- a launch in an environment, with the text of a log filter if one is given -/
def run (env : Environment) (filter : Option String) (host : Host) (files : FileTree) : Launch :=
  let (loaded, files) := Settings.load files env.settingsPath
  ofLoaded loaded filter host files

end Launch

end RemoteShutter
