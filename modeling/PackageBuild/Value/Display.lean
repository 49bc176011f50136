import PackageBuild.Number.Shortest
import PackageBuild.Package.Version
import PackageBuild.Text.Quoted
import PackageBuild.Value.Basic

/-!
# Display of values

A value is shown with its quotes, brackets and names. Records are shown without the fields that
have their default. Apart from that, texts, members, paths and versioned packages have a plain text
of their own.
-/

namespace PackageBuild.Value

open Number Text

/-- A part of a complex number, with a sign in front of positive ones when asked for. -/
def complexPart (signed : Bool) (x : Binary64) : String :=
  let digits := shortestChars [] x
  String.ofList (if signed && digits.head? ≠ some '-' then '+' :: digits else digits)

/-- A complex number with its unit; the first part is left out when it is a positive zero. -/
def complexDisplay (re im : Binary64) : String :=
  if re = Binary64.zero false then complexPart false im ++ "j"
  else "(" ++ complexPart false re ++ complexPart true im ++ "j)"

/-- Items between brackets. -/
def enclosed (opening closing : String) (items : List String) : String :=
  opening ++ joined ", " items ++ closing

/-- The items of a tuple, with a comma behind a single one. -/
def tupleDisplay : List String → String
  | [item] => "(" ++ item ++ ",)"
  | items => enclosed "(" ")" items

/-- The members of a set. -/
def setDisplay : List String → String
  | [] => "set()"
  | items => enclosed "\x7b" "\x7d" items

mutual

/-- A value as it is shown among others. -/
def display : Value → String
  | null => "None"
  | bool b => if b then "True" else "False"
  | int n => integerText n
  | float x => shortestText x
  | complex re im => complexDisplay re im
  | text s => quoted s
  | member m => "<" ++ m.choice.name ++ "." ++ m.label ++ ": " ++ quoted m.text ++ ">"
  | bytes b => quotedBytes b
  | path p => "PurePosixPath(" ++ quoted p.text ++ ")"
  | list items => enclosed "[" "]" (displayItems items)
  | tuple items => tupleDisplay (displayItems items)
  | set items => setDisplay (displayItems items)
  | map entries => enclosed "\x7b" "\x7d" (displayEntries entries)
  | record type fields => enclosed (type.name ++ "(") ")" (displayFields type.fields fields)
termination_by structural v => v

/-- Every item as it is shown. -/
def displayItems : List Value → List String
  | [] => []
  | v :: rest => display v :: displayItems rest
termination_by structural items => items

/-- Every entry as it is shown. -/
def displayEntries : List (Value × Value) → List String
  | [] => []
  | (k, v) :: rest => (display k ++ ": " ++ display v) :: displayEntries rest
termination_by structural entries => entries

/-- The fields that do not have their default, each with its name. -/
def displayFields : List Field → List Value → List String
  | field :: fields, v :: rest =>
    let others := displayFields fields rest
    if field.omits v then others else (field.name ++ "=" ++ display v) :: others
  | _, _ => []
termination_by structural _ values => values

end

/-- A value as plain text; a versioned package must have texts for that. -/
def plainText : Value → Except Fault String
  | text s => .ok s
  | member m => .ok m.text
  | path p => .ok p.text
  | record .package [name, version, condition, secondVersion, secondCondition] =>
    (VersionedPackage.mk name version condition secondVersion secondCondition).display
  | v => .ok (display v)

/-- A value as a message shows it: its plain text, if it has one. -/
def messageText (v : Value) : String :=
  match plainText v with
  | .ok s => s
  | .error _ => display v

/-- The path that a value names: a text names one, and a path itself. -/
def toPath : Value → Except Fault Path
  | text s => .ok (.ofText s)
  | member m => .ok (.ofText m.text)
  | path p => .ok p
  | bytes b => .error (.bytesPath (bytes b).typeName)
  | v => .error (.notPath v.typeName)

end PackageBuild.Value
