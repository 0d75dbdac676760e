import SelectBinding.Sql.Grammar.Column

/-!
The names of types, by their texts. Types may contain types, and columns with types.
-/

namespace SelectBinding.Sql.Grammar

open Sql.Parser

/-- The name of a type: what kind of name it is, and its text. -/
inductive TypeName where
  /-- The type of lengths of time, which starts a literal of its own. -/
  | interval
  /-- A name that the grammar does not know. -/
  | unknown (text : String)
  | known (text : String)
deriving Repr, DecidableEq

namespace TypeName

/-- The text of a type. -/
def text : TypeName → String
  | .interval => "INTERVAL"
  | .unknown text => text
  | .known text => text

end TypeName

/-- The types that take nothing after their name, and how they are shown. -/
def plainTypes : List (String × String) :=
  [("BOOLEAN", "BOOLEAN"), ("BOOL", "BOOL"), ("REAL", "REAL"), ("FLOAT4", "FLOAT4"),
   ("FLOAT32", "Float32"), ("FLOAT64", "FLOAT64"), ("FLOAT8", "FLOAT8"), ("INT16", "Int16"),
   ("INT32", "Int32"), ("INT64", "INT64"), ("INT128", "Int128"), ("INT256", "Int256"),
   ("UINT8", "UInt8"), ("UINT16", "UInt16"), ("UINT32", "UInt32"), ("UINT64", "UInt64"),
   ("UINT128", "UInt128"), ("UINT256", "UInt256"), ("UUID", "UUID"), ("DATE", "DATE"),
   ("DATE32", "Date32"), ("JSON", "JSON"), ("JSONB", "JSONB"), ("REGCLASS", "REGCLASS"),
   ("TEXT", "TEXT"), ("TINYTEXT", "TINYTEXT"), ("MEDIUMTEXT", "MEDIUMTEXT"),
   ("LONGTEXT", "LONGTEXT"), ("TINYBLOB", "TINYBLOB"), ("MEDIUMBLOB", "MEDIUMBLOB"),
   ("LONGBLOB", "LONGBLOB"), ("BYTEA", "BYTEA"), ("TRIGGER", "TRIGGER")]

/-- The types that may take a size. -/
def sizedTypes : List String :=
  ["FLOAT", "CLOB", "BINARY", "VARBINARY", "BLOB", "BYTES", "DATETIME", "STRING"]

/-- The types of whole numbers, which may take a size and `UNSIGNED`. -/
def integerTypes : List String :=
  ["TINYINT", "INT2", "SMALLINT", "MEDIUMINT", "INT", "INT4", "INT8", "INTEGER", "BIGINT"]

/-- The types of exact numbers, which may take a precision and a scale. -/
def exactTypes : List String :=
  ["NUMERIC", "DECIMAL", "DEC", "BIGNUMERIC", "BIGDECIMAL"]

/-- A size in parentheses, perhaps none. -/
def optionalSize : Parser String := do
  if ← sign "(" then
    let n ← literalNat
    expectSign ")"
    return "(" ++ toString n ++ ")"
  else return ""

/-- A length in characters in parentheses, perhaps none. -/
def optionalLength : Parser String := do
  if ← sign "(" then
    let length ←
      if ← keyword "MAX" then pure "MAX"
      else do
        let n ← literalNat
        match ← oneOf ["CHARACTERS", "OCTETS"] with
        | some unit => pure (toString n ++ " " ++ unit)
        | none => pure (toString n)
    expectSign ")"
    return "(" ++ length ++ ")"
  else return ""

/-- A precision and perhaps a scale in parentheses, perhaps none. -/
def optionalPrecision : Parser String := do
  if ← sign "(" then
    let precision ← literalNat
    let scale ← if ← sign "," then pure ("," ++ toString (← literalNat)) else pure ""
    expectSign ")"
    return "(" ++ toString precision ++ scale ++ ")"
  else return ""

/-- Whether a moment has a time zone, perhaps not said. -/
def optionalTimeZone : Parser String := do
  if ← keyword "WITH" then
    expectKeywords ["TIME", "ZONE"]
    return " WITH TIME ZONE"
  else if ← keyword "WITHOUT" then
    expectKeywords ["TIME", "ZONE"]
    return " WITHOUT TIME ZONE"
  else return ""

/-- A type of texts after the word `CHARACTER` or `CHAR`. -/
def characterType (word : String) : Parser String := do
  if ← keyword "VARYING" then return word ++ " VARYING" ++ (← optionalLength)
  else if ← keywords ["LARGE", "OBJECT"] then return word ++ " LARGE OBJECT" ++ (← optionalSize)
  else return word ++ (← optionalLength)

/-- One string of a list of values. -/
def stringValue : Parser String := do
  let t ← next
  match t.token with
  | .string .plain value => return quoted '\'' value
  | _ => expected "a string" t

/-- Whether another string follows one of a list of values, or else the parenthesis closes. -/
def moreStrings : Parser Bool := do
  let t ← next
  match t.token with
  | .sign "," => return true
  | .sign ")" => return false
  | _ => expected ", or \x7d" t

/-- Strings in parentheses. -/
def stringValues : Parser (List String) := do
  expectSign "("
  let first ← stringValue
  return first :: (← many moreStrings stringValue)

/-- One value of an enumeration, perhaps with its number. -/
def enumerated : Parser String := do
  let value := quoted '\'' (← literalString)
  if ← sign "=" then return value ++ " = " ++ (← signedNumeral) else return value

/-- A moment's digits of seconds, perhaps with a time zone, in parentheses. -/
def zonedPrecision : Parser String := do
  let inside ← parenthesized (do
    let digits := toString (← literalNat)
    if ← sign "," then return digits ++ ", '" ++ (← literalString) ++ "'" else return digits)
  return inParentheses inside

/-- A modifier of a type that the grammar does not know; `none` at the closing parenthesis. -/
def typeModifier (found : List String) : Parser (Option (List String)) := do
  let t ← peek
  match t.token with
  | .sign ")" => return none
  | _ =>
    let t ← next
    match t.token with
    | .word _ _ => return some (t.token.text :: found)
    | .number spelling _ => return some (spelling :: found)
    | .string .plain value => return some (value :: found)
    | .sign "," => return some found
    | _ => expected "type modifiers" t

/-- A type that the grammar does not know, perhaps with modifiers. -/
def unknownType : Parser TypeName := do
  let name ← objectNameText
  if ← sign "(" then
    let modifiers ← repeatedly typeModifier []
    expectSign ")"
    if modifiers.isEmpty then return .unknown name
    else return .unknown (name ++ "(" ++ commas modifiers.reverse ++ ")")
  else return .unknown name

/-- A type without the types inside it, after its keyword. -/
def flatType (word : String) : Parser (Option TypeName) := do
  let known (text : String) : Option TypeName := some (.known text)
  if let some shown := plainTypes.lookup word then return known shown
  if sizedTypes.contains word then return known (word ++ (← optionalSize))
  if exactTypes.contains word then return known (word ++ (← optionalPrecision))
  if integerTypes.contains word then
    let size ← optionalSize
    return known (word ++ size ++ if ← keyword "UNSIGNED" then " UNSIGNED" else "")
  match word with
  | "VARCHAR" | "NVARCHAR" => return known (word ++ (← optionalLength))
  | "CHARACTER" | "CHAR" => return known (← characterType word)
  | "BIT" =>
    if ← keyword "VARYING" then return known ("BIT VARYING" ++ (← optionalSize))
    else return known ("BIT" ++ (← optionalSize))
  | "DOUBLE" =>
    return known (if ← keyword "PRECISION" then "DOUBLE PRECISION" else "DOUBLE")
  | "TIMESTAMP" | "TIME" =>
    let size ← optionalSize
    return known (word ++ size ++ (← optionalTimeZone))
  | "TIMESTAMPTZ" | "TIMETZ" => return known (word ++ (← optionalSize))
  | "INTERVAL" => return some .interval
  | "ENUM" | "ENUM8" | "ENUM16" =>
    let values ← parenthesized (commaSeparated enumerated)
    return known (word ++ inParentheses (commas values))
  | "SET" =>
    return known (word ++ inParentheses (commas (← stringValues)))
  | "DATETIME64" => return known ("DateTime64" ++ (← zonedPrecision))
  | "FIXEDSTRING" =>
    return known ("FixedString" ++ inParentheses (toString (← parenthesized literalNat)))
  | _ => return none

/-- The types of arrays written after the type of their elements. -/
def arraySuffix (type : TypeName) : Parser (Option TypeName) := do
  if ← sign "[" then
    let size ← if ← dialectIn [.ansi, .postgres] then maybe literalNat else pure none
    expectSign "]"
    return some (.known (type.text ++ "[" ++
      (match size with
        | some n => toString n
        | none => "") ++ "]"))
  else return none

/-- The bracket that closes a type, unless it was read as the first half of a double one; whether
it is the first half of a double one itself. -/
def closingBracket (closed : Bool) : Parser Bool := do
  if closed then return false
  else if ← sign ">" then return false
  else if ← sign ">>" then return true
  else expected ">" (← peek)

/-- A type, and whether the bracket after it closed the type around it as well. -/
abbrev Bracketed := TypeName × Bool

/-- A type after which no bracket is left over. -/
def balanced (type : Parser Bracketed) : Parser TypeName := do
  let (type, closesOuter) ← type
  if closesOuter then
    fail ("unmatched > after parsing data type " ++ type.text ++ (← peek).token.text)
  else return type

/-- A member of a record type: a type, perhaps after a name. -/
def memberType (type : Parser Bracketed) : Parser (String × Bool) := do
  let anonymous :=
    match (← peek).token, (← peekAt 1).token with
    | .word _ _, .word _ _ => false
    | _, _ => true
  let name ← if anonymous then pure "" else pure ((← identifier).text ++ " ")
  let (type, closed) ← type
  return (name ++ type.text, closed)

/-- The members of a record type so far, the last one first. -/
def memberTypes (type : Parser Bracketed) (place : Location) (found : List String × Bool) :
    Parser (Option (List String × Bool)) := do
  if ← sign "," then
    if found.2 then failAt "unmatched > in STRUCT definition" place
    else
      let (member, closed) ← memberType type
      return some (member :: found.1, closed)
  else return none

/-- The types of the members of a record in angle brackets, perhaps not said, and whether the
closing bracket closed the type around it as well. -/
def recordMembers (type : Parser Bracketed) (place : Location) : Parser (List String × Bool) := do
  if ← sign "<" then
    let (first, closed) ← memberType type
    let (members, closed) ← repeatedly (memberTypes type place) ([first], closed)
    return (members.reverse, ← closingBracket closed)
  else return ([], false)

/-- The text of a record type. -/
def recordText (members : List String) : String :=
  if members.isEmpty then "STRUCT" else "STRUCT<" ++ commas members ++ ">"

/-- What is written in parentheses after the name of a type. -/
def typeOf (name : String) (inside : Parser String) : Parser (Option Bracketed) := do
  return some (.known (name ++ inParentheses (← parenthesized inside)), false)

/-- A type that contains other types, after its keyword at `place`. -/
def composedType (inner : Inner) (type : Parser Bracketed) (place : Location) (word : String) :
    Parser (Option Bracketed) := do
  let insideText : Parser String := return (← balanced type).text
  if word == "ARRAY" then
    expectSign "<"
    let (inside, closed) ← type
    return some (.known ("ARRAY<" ++ inside.text ++ ">"), ← closingBracket closed)
  else if ← dialectIn [.ansi] then
    match word with
    | "STRUCT" =>
      let (members, closesOuter) ← recordMembers type place
      return some (.known (recordText members), closesOuter)
    | "UNION" =>
      typeOf "UNION" (return commas (← commaSeparated (do
        let name ← identifier
        return name.text ++ " " ++ (← insideText))))
    | "NULLABLE" => typeOf "Nullable" insideText
    | "LOWCARDINALITY" => typeOf "LowCardinality" insideText
    | "MAP" =>
      typeOf "Map" (do
        let key ← insideText
        expectSign ","
        return key ++ ", " ++ (← insideText))
    | "NESTED" =>
      typeOf "Nested" (return commas (← commaSeparated (columnDefinition inner insideText)))
    | "TUPLE" =>
      typeOf "Tuple" (return commas (← commaSeparated (return (← memberType type).1)))
    | _ => return none
  else return none

/-- A type and whether the bracket after it closed the type around it as well. The types inside a
type are counted down by `depth`. -/
def typeWithin (inner : Inner) : Nat → Parser Bracketed
  | 0 => failWith .tooDeep
  | depth + 1 => do
    let t ← peek
    match t.token with
    | .word _ _ =>
      let word := (t.token.keyword?).getD ""
      let found ← lookFor (do
        let _ ← next
        match ← composedType inner (typeWithin inner depth) t.place word with
        | some type => return some type
        | none => return (← flatType word).map fun type => (type, false))
      match found with
      | some (type, closesOuter) => return (← repeatedly arraySuffix type, closesOuter)
      | none => return (← repeatedly arraySuffix (← unknownType), false)
    | _ => expected "a data type name" (← next)

/-- A type. -/
def dataType (inner : Inner) : Parser TypeName := do
  balanced (typeWithin inner ((← remaining) + 1))

/-- The text of a type. -/
def dataTypeText (inner : Inner) : Parser String :=
  return (← dataType inner).text

end SelectBinding.Sql.Grammar
