import PackageBuild.Summary.Row

/-!
# Comma-separated tables

Records end with a line feed and have commas between their fields. A field with a comma, a double
quote or a line feed stands between double quotes, and each double quote in it is doubled; a lone
carriage return needs no quotes.

Main results:

- `encodeField_of_plain`: a field without the three characters stands as it is.
-/

namespace PackageBuild.Summary.Csv

/-- Whether a character needs quotes around its field. -/
def isSpecial (c : Char) : Bool := c == ',' || c == '\x22' || c == '\n'

/-- A text with every double quote doubled. -/
def doubleQuotes (s : List Char) : List Char :=
  s.flatMap fun c => if c = '\x22' then ['\x22', '\x22'] else [c]

/-- A field as it is written. -/
def encodeField (s : List Char) : List Char :=
  if s.any isSpecial then '\x22' :: doubleQuotes s ++ ['\x22'] else s

/-- Fields with commas between them. -/
def encodeFields : List (List Char) → List Char
  | [] => []
  | [field] => encodeField field
  | field :: rest => encodeField field ++ ',' :: encodeFields rest

/-- A record as it is written. -/
def encodeRecord (fields : List (List Char)) : List Char := encodeFields fields ++ ['\n']

/-- A table as it is written. -/
def encodeTable (records : List (List (List Char))) : List Char := records.flatMap encodeRecord

/-- The text of a table with its column names. -/
def encode (rows : List Row) : String :=
  String.ofList (encodeTable ((columnNames :: rows.map RowOf.columns).map (·.map String.toList)))

theorem encodeField_of_plain {s : List Char} (h : s.any isSpecial = false) : encodeField s = s := by
  simp [encodeField, h]

end PackageBuild.Summary.Csv
