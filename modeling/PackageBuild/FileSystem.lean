import PackageBuild.OrderedMap
import PackageBuild.Path
import PackageBuild.Text.Quoted
import PackageBuild.Text.Sorted

/-!
# File systems

A tree of directories, text files and devices that take no data, known by the component lists of
their places. A path is looked up component by component from the root or from the working
directory.

Main results:

- `find?_root`: the root is always a directory.
- `find?_put`: putting something at a place changes that place only.
-/

namespace PackageBuild

/-- The components from the root to a place. -/
abbrev Location := List (List Char)

/-- What is at a place. -/
inductive Entry where
  | directory
  | file (text : String)
  /-- A device on which every write fails for want of space. -/
  | full
  deriving DecidableEq, Repr

/-- A tree of files with a working directory. -/
structure FileSystem where
  /-- What is at the places other than the root. -/
  entries : OrderedMap Location Entry
  /-- The place where relative paths begin. -/
  workingDirectory : Location

namespace FileSystem

/-- Why a file cannot be opened for writing, or not be written. -/
inductive Refusal where
  | noEntry
  | alreadyThere
  | notDirectory
  | isDirectory
  | nameTooLong
  | noSpace
  deriving DecidableEq, Repr

namespace Refusal

/-- The number of a refusal. -/
def number : Refusal → Nat
  | noEntry => 2
  | alreadyThere => 17
  | notDirectory => 20
  | isDirectory => 21
  | nameTooLong => 36
  | noSpace => 28

/-- The text of a refusal. -/
def text : Refusal → String
  | noEntry => "No such file or directory"
  | alreadyThere => "File exists"
  | notDirectory => "Not a directory"
  | isDirectory => "Is a directory"
  | nameTooLong => "File name too long"
  | noSpace => "No space left on device"

/-- The whole message, with the path if it is known. -/
def message (r : Refusal) (path? : Option String) : String :=
  "[Errno " ++ toString r.number ++ "] " ++ r.text ++
    match path? with
    | some path => ": " ++ Text.quoted path
    | none => ""

end Refusal

/-- What is at a place. -/
def find? (fs : FileSystem) (place : Location) : Option Entry :=
  if place = [] then some .directory else fs.entries.find? place

/-- The file system with something put at a place. -/
def put (fs : FileSystem) (place : Location) (entry : Entry) : FileSystem :=
  { fs with entries := fs.entries.insert place entry }

/-- The root is always a directory. -/
@[simp] theorem find?_root (fs : FileSystem) : fs.find? [] = some .directory := rfl

/-- Putting something at a place changes that place only. -/
theorem find?_put (fs : FileSystem) {place : Location} (h : place ≠ []) (entry : Entry)
    (other : Location) :
    (fs.put place entry).find? other = if other = place then some entry else fs.find? other := by
  unfold find? put
  by_cases ho : other = []
  · simp [ho, Ne.symm h]
  · simp [ho, OrderedMap.find?_insert]

/-! ## Looking up paths -/

/-- A component must be shorter than this in bytes. -/
def nameBound : Nat := 256

/-- A path must be shorter than this in bytes. -/
def pathBound : Nat := 4096

/-- The place above a place; the root is above itself. -/
def parent (place : Location) : Location := place.dropLast

/-- The place that a component leads to from a directory. -/
def next (place : Location) (part : List Char) : Location :=
  if part = ['.', '.'] then parent place else place ++ [part]

/-- The number of bytes of a component. -/
def byteLength (part : List Char) : Nat := (String.ofList part).utf8ByteSize

/-- The place that components lead to from a place, all but the last being directories on the way.
The last one need not exist. -/
def walk (fs : FileSystem) (place : Location) : List (List Char) → Except Refusal Location
  | [] => .ok place
  | part :: rest =>
    match fs.find? place with
    | none => .error .noEntry
    | some .directory =>
      if nameBound ≤ byteLength part then .error .nameTooLong
      else walk fs (next place part) rest
    | some _ => .error .notDirectory

/-- The place where the lookup of a path begins. -/
def start (fs : FileSystem) (path : Path) : Location :=
  match path.anchor with
  | .relative => fs.workingDirectory
  | _ => []

/-- The place of a path that may be written. -/
def locate (fs : FileSystem) (path : Path) : Except Refusal Location := do
  if pathBound ≤ path.text.utf8ByteSize then throw .nameTooLong
  let place ← fs.walk (fs.start path) path.parts
  match fs.find? place with
  | some .directory => throw .isDirectory
  | _ => return place

/-- Open a file for writing, which empties or creates it, and tell its place. -/
def openFile (fs : FileSystem) (path : Path) : Except Refusal (FileSystem × Location) := do
  let place ← fs.locate path
  match fs.find? place with
  | some .full => return (fs, place)
  | _ => return (fs.put place (.file ""), place)

/-- Write a text to an open file. -/
def writeFile (fs : FileSystem) (place : Location) (text : String) : Except Refusal FileSystem :=
  match fs.find? place with
  | some .full => .error .noSpace
  | _ => .ok (fs.put place (.file text))

/-! ## Files to begin with -/

/-- The place of names below the root. -/
def placeOf (names : List String) : Location := names.map String.toList

/-- A file system with a working directory below the root and nothing else. -/
def fresh : FileSystem where
  entries := .ofList [(placeOf ["work"], .directory)]
  workingDirectory := placeOf ["work"]

/-- Why something is not made. -/
inductive Unmade where
  | refused (refusal : Refusal) (path : Path)
  | nullInPath
  deriving DecidableEq, Repr

/-- Make the directories along components where there are none yet, and tell the place they lead to.
-/
def makeDirectories (fs : FileSystem) (place : Location) :
    List (List Char) → Except Refusal (FileSystem × Location)
  | [] => .ok (fs, place)
  | part :: rest =>
    if nameBound ≤ byteLength part then .error .nameTooLong
    else
      let here := next place part
      match fs.find? here with
      | none => makeDirectories (fs.put here .directory) here rest
      | some .directory => makeDirectories fs here rest
      | some _ => .error (if rest.isEmpty then .alreadyThere else .notDirectory)

/-- The file system with a directory at a path. -/
def addDirectory (fs : FileSystem) (path : Path) : Except Unmade FileSystem :=
  match fs.makeDirectories (fs.start path) path.parts with
  | .ok (made, _) => .ok made
  | .error refusal => .error (.refused refusal path)

/-- The file system with a file at a path, and the directories on the way to it. -/
def addFile (fs : FileSystem) (path : Path) (text : String) : Except Unmade FileSystem := do
  let made ← fs.addDirectory { path with parts := path.parts.dropLast }
  match made.openFile path with
  | .ok (opened, place) => return opened.put place (.file text)
  | .error refusal => throw (.refused refusal path)

/-- The file system with a file, or a directory without a text. -/
def add (fs : FileSystem) (path : Path) (text? : Option String) : Except Unmade FileSystem :=
  if '\x00' ∈ path.text.toList then .error .nullInPath
  else match text? with
    | some text => fs.addFile path text
    | none => fs.addDirectory path

/-- The file system with files, and with a directory for each path without a text. -/
def addAll (fs : FileSystem) (files : List (String × Option String)) : Except Unmade FileSystem :=
  files.foldlM (fun fs file => fs.add (Path.ofText file.1) file.2) fs

/-- The text of a place relative to the working directory, if it lies below. -/
def relativeText? (fs : FileSystem) (place : Location) : Option String :=
  if fs.workingDirectory.isPrefixOf place && place ≠ fs.workingDirectory then
    some (String.ofList (Text.joinWith '/' (place.drop fs.workingDirectory.length)))
  else none

/-- Everything below the working directory with the texts of files, in the order of the paths. -/
def listing (fs : FileSystem) : List (String × Option String) :=
  (fs.entries.entries.filterMap fun (place, entry) =>
    (fs.relativeText? place).map fun path =>
      (path, match entry with
        | .file text => some text
        | _ => none)).mergeSort fun x y => Text.atMost x.1 y.1

end FileSystem

end PackageBuild
