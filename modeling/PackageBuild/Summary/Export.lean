import PackageBuild.FileSystem
import PackageBuild.Summary.Csv

/-!
# Writing the table to a file

The file is emptied or created first and then gets the whole table. If one of the two is refused,
this is logged and returned, and nothing else stops. Only a null character in the path is refused
outright.

Main results:

- `write_null`: a path with a null character is refused before anything is touched.
-/

namespace PackageBuild.Summary

/-- Where a table goes: to a path, which may be given as a text or be no path at all. -/
inductive Destination where
  | given (v : Value)
  | path (path : Path)

namespace Destination

/-- The path of a destination. -/
def toPath : Destination → Except Value.Fault Path
  | given v => v.toPath
  | path p => .ok p

/-- A destination as it was given. -/
def shown : Destination → String
  | given v => v.messageText
  | path p => p.text

end Destination

/-- A path with a null character. -/
structure NullInPath where
  deriving DecidableEq, Repr

/-- What writing a table did. -/
structure Written where
  files : FileSystem
  complete : Bool
  records : List Log.Record

namespace Export

/-- The logger of tables. -/
def logger : String := "build_report.tabular"

/-- The warning about a file that cannot be opened. -/
def openWarning (path : String) (refusal : FileSystem.Refusal) : List Log.Record :=
  Log.record logger Log.warning
    ("Unable to create '" ++ path ++ "' file. Error: " ++ refusal.message (some path))

/-- The warning about a file that cannot be written. -/
def writeWarning (path : String) (refusal : FileSystem.Refusal) : List Log.Record :=
  Log.record logger Log.warning
    ("Failed to write to CSV file '" ++ path ++ "'. Error: " ++ refusal.message none)

/-- Write rows as a table to a path. -/
def write (files : FileSystem) (rows : List Row) (path : Path) : Except NullInPath Written :=
  if '\x00' ∈ path.chars then .error ⟨⟩
  else match files.openFile path with
    | .error refusal => .ok ⟨files, false, openWarning path.text refusal⟩
    | .ok (opened, place) =>
      match opened.writeFile place (Csv.encode rows) with
      | .error refusal => .ok ⟨opened, false, writeWarning path.text refusal⟩
      | .ok written => .ok ⟨written, true, []⟩

/-- A path with a null character is refused before anything is touched. -/
theorem write_null {path : Path} (h : '\x00' ∈ path.chars) (files : FileSystem)
    (rows : List Row) : write files rows path = .error ⟨⟩ := by
  simp [write, h]

/-- Write the rows in front of a fault, which is raised if they could be written. -/
def writeGiven (files : FileSystem) (given : List Row × Option Value.Fault) (path : Path) :
    Except NullInPath (Written × Option Value.Fault) :=
  (write files given.1 path).map fun written =>
    (written, if written.complete then given.2 else none)

end Export

end PackageBuild.Summary
