import SelectBinding.Data.Value

/-!
Writing JSON text, on one line or indented by two blanks a level.
-/

namespace SelectBinding.Json

/-- A digit of a hexadecimal number below sixteen. -/
def hexDigit (n : Nat) : Char :=
  if n < 10 then Char.ofNat ('0'.toNat + n) else Char.ofNat ('a'.toNat + (n - 10))

/-- A character inside a string. -/
def escape (c : Char) : List Char :=
  if c = '"' then ['\\', '"']
  else if c = '\\' then ['\\', '\\']
  else if c = '\n' then ['\\', 'n']
  else if c = '\r' then ['\\', 'r']
  else if c = '\t' then ['\\', 't']
  else if c.toNat = 8 then ['\\', 'b']
  else if c.toNat = 12 then ['\\', 'f']
  else if c.toNat < 0x20 then
    ['\\', 'u', '0', '0', hexDigit (c.toNat / 16), hexDigit (c.toNat % 16)]
  else [c]

/-- A string between its quotes. -/
def writeString (s : String) : String :=
  "\"" ++ String.ofList (s.toList.flatMap escape) ++ "\""

mutual

/-- The text of a value on one line. -/
def write : Data → String
  | .null => "null"
  | .bool true => "true"
  | .bool false => "false"
  | .number spelling => spelling
  | .text s => writeString s
  | .unusable | .moment => "null"
  | .list items => "[" ++ writeItems items ++ "]"
  | .record members => "\x7b" ++ writeMembers members ++ "\x7d"

/-- The texts of items, separated by commas. -/
def writeItems : List Data → String
  | [] => ""
  | [item] => write item
  | item :: rest => write item ++ "," ++ writeItems rest

/-- The texts of members, separated by commas. -/
def writeMembers : List (String × Data) → String
  | [] => ""
  | [(key, value)] => writeString key ++ ":" ++ write value
  | (key, value) :: rest => writeString key ++ ":" ++ write value ++ "," ++ writeMembers rest

end

/-- The start of a line at a level of indentation. -/
def newLine (level : Nat) : String :=
  "\n" ++ String.ofList (List.replicate (2 * level) ' ')

mutual

/-- The text of a value over several lines, from a given level of indentation on. -/
def writeIndented (level : Nat) : Data → String
  | .list [] => "[]"
  | .list items => "[" ++ writeIndentedItems (level + 1) items ++ newLine level ++ "]"
  | .record [] => "\x7b\x7d"
  | .record members =>
    "\x7b" ++ writeIndentedMembers (level + 1) members ++ newLine level ++ "\x7d"
  | .null => "null"
  | .bool true => "true"
  | .bool false => "false"
  | .number spelling => spelling
  | .text s => writeString s
  | .unusable | .moment => "null"

/-- The texts of items, each on lines of its own. -/
def writeIndentedItems (level : Nat) : List Data → String
  | [] => ""
  | [item] => newLine level ++ writeIndented level item
  | item :: rest =>
    newLine level ++ writeIndented level item ++ "," ++ writeIndentedItems level rest

/-- The texts of members, each on lines of its own. -/
def writeIndentedMembers (level : Nat) : List (String × Data) → String
  | [] => ""
  | [(key, value)] => newLine level ++ writeString key ++ ": " ++ writeIndented level value
  | (key, value) :: rest =>
    newLine level ++ writeString key ++ ": " ++ writeIndented level value ++ "," ++
      writeIndentedMembers level rest

end

/-- The text of a value over several lines. -/
def pretty (value : Data) : String :=
  writeIndented 0 value

end SelectBinding.Json
