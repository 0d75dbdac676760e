import SelectBinding.Json.Write

/-!
Writing TOML text: lines of keys and values, and headers of tables.
-/

namespace SelectBinding.Toml

/-- A character inside a text between double quotes. -/
def escape (c : Char) : List Char :=
  if c.toNat = 0x7f then ['\\', 'u', '0', '0', '7', 'F'] else Json.escape c

/-- A text between its quotes. -/
def writeText (s : String) : String :=
  "\"" ++ String.ofList (s.toList.flatMap escape) ++ "\""

/-- A list of texts. -/
def writeTexts (items : List String) : String :=
  "[" ++ String.intercalate ", " (items.map writeText) ++ "]"

/-- A line with a plain key and a value. -/
def writeLine (key value : String) : String :=
  key ++ " = " ++ value ++ "\n"

/-- The header of a table under a plain key. -/
def writeHeader (key : String) : String :=
  "[" ++ key ++ "]\n"

end SelectBinding.Toml
