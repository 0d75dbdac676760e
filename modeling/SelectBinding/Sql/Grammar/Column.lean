import SelectBinding.Sql.Grammar.Options

/-!
Columns with their types and options. The parser of types is given, because types may contain
columns themselves.
-/

namespace SelectBinding.Sql.Grammar

open Sql.Parser

/-- What is done to the rows that refer to a row. -/
def referentialAction : Parser String := do
  if ← keyword "RESTRICT" then return "RESTRICT"
  else if ← keyword "CASCADE" then return "CASCADE"
  else if ← keywords ["SET", "NULL"] then return "SET NULL"
  else if ← keywords ["NO", "ACTION"] then return "NO ACTION"
  else if ← keywords ["SET", "DEFAULT"] then return "SET DEFAULT"
  else expected "one of RESTRICT, CASCADE, SET NULL, NO ACTION or SET DEFAULT" (← peek)

/-- What happens to rows that refer to a row that is removed, and to one that is changed. -/
abbrev ReferentialActions := Option String × Option String

/-- One more such action; `none` when none comes next. -/
def nextReferentialAction (found : ReferentialActions) : Parser (Option ReferentialActions) := do
  let (removed, changed) := found
  let onRemoval ← if removed.isNone then keywords ["ON", "DELETE"] else pure false
  if onRemoval then return some (some (← referentialAction), changed)
  else
    let onChange ← if changed.isNone then keywords ["ON", "UPDATE"] else pure false
    if onChange then return some (removed, some (← referentialAction)) else return none

/-- What happens to rows that refer to others, as far as it is said, and when this is checked. -/
def referenceRules : Parser String := do
  let (removed, changed) ← repeatedly nextReferentialAction (none, none)
  return clause "ON DELETE " removed ++ clause "ON UPDATE " changed ++ (← checking)

/-- A reference to a column of another table, after the keyword. -/
def columnReference : Parser String := do
  let table ← objectNameText
  let columns ← optionalColumnNames
  let shown := if columns.isEmpty then "" else " " ++ inParentheses (commas columns)
  return "REFERENCES " ++ table ++ shown ++ (← referenceRules)

/-- What a column gets from a sequence, after the words for it. -/
def fromSequence (words : String) : Parser (Option String) := do
  if ← sign "(" then
    let options ← sequenceOptions
    expectSign ")"
    let shown := if options.isEmpty then "" else " (" ++ options ++ " )"
    return some ("GENERATED " ++ words ++ " AS IDENTITY" ++ shown)
  else return some ("GENERATED " ++ words ++ " AS IDENTITY")

/-- Whether values are stored or made when they are asked for, perhaps not said. -/
def keeping : Parser String := do
  if ← keyword "STORED" then return " STORED"
  else if ← keyword "VIRTUAL" then return " VIRTUAL"
  else return ""

/-- How a column gets its values, after the keyword; `none` when it is not said. -/
def generated (inner : Inner) : Parser (Option String) := do
  if ← keywords ["ALWAYS", "AS", "IDENTITY"] then fromSequence "ALWAYS"
  else if ← keywords ["BY", "DEFAULT", "AS", "IDENTITY"] then fromSequence "BY DEFAULT"
  else if ← keywords ["ALWAYS", "AS"] then
    if ← sign "(" then
      let value ← inner.termText
      expectSign ")"
      let start := "GENERATED ALWAYS AS " ++ inParentheses value
      if ← dialectIn [.postgres] then
        unless ← keyword "STORED" do expected "STORED" (← peek)
        return some (start ++ " STORED")
      else return some (start ++ (← keeping))
    else return none
  else return none

/-- How a column counts its rows, after the keyword. -/
def identity : Parser String := do
  if ← sign "(" then
    let seed ← signedNumeral
    expectSign ","
    let increment ← signedNumeral
    expectSign ")"
    return "IDENTITY" ++ inParentheses (seed ++ ", " ++ increment)
  else return "IDENTITY"

/-- A remark on a column, after the keyword. -/
def columnRemark : Parser String := do
  let t ← next
  match t.token with
  | .string .plain value => return "COMMENT " ++ quoted '\'' value
  | _ => expected "string" t

/-- An option of a column that every dialect has; `none` when none comes next. -/
def usualColumnOption (inner : Inner) : Parser (Option String) := do
  if ← keywords ["CHARACTER", "SET"] then return some ("CHARACTER SET " ++ (← objectNameText))
  else if ← keywords ["NOT", "NULL"] then return some "NOT NULL"
  else if ← keyword "COMMENT" then some <$> columnRemark
  else if ← keyword "NULL" then return some "NULL"
  else if ← keyword "DEFAULT" then return some ("DEFAULT " ++ (← inner.termText))
  else if ← onlyIn [.ansi] (keyword "MATERIALIZED") then
    return some ("MATERIALIZED " ++ (← inner.termText))
  else if ← onlyIn [.ansi] (keyword "ALIAS") then return some ("ALIAS " ++ (← inner.termText))
  else if ← onlyIn [.ansi] (keyword "EPHEMERAL") then
    if (← peekSign ",") || (← peekSign ")") then return some "EPHEMERAL"
    else return some ("EPHEMERAL " ++ (← inner.termText))
  else if ← keywords ["PRIMARY", "KEY"] then return some ("PRIMARY KEY" ++ (← checking))
  else if ← keyword "UNIQUE" then return some ("UNIQUE" ++ (← checking))
  else if ← keyword "REFERENCES" then some <$> columnReference
  else if ← keyword "CHECK" then
    return some ("CHECK " ++ inParentheses (← parenthesized inner.termText))
  else return none

/-- An option that only some dialects have and that ends with its words. The words are read in any
dialect; where they are no option, what comes next may still be one. -/
def readyOption (found : Option String) (dialects : List Dialect) (words : List String) :
    Parser (Option String) := do
  if found.isSome then return found
  else if ← keywords words then
    if ← dialectIn dialects then return some (blanks words) else return none
  else return none

/-- An option of a column that only some dialects have; `none` when none comes next. -/
def rareColumnOption (inner : Inner) : Parser (Option String) := do
  let ready ← readyOption none [.ansi, .mysql] ["AUTO_INCREMENT"]
  let ready ← readyOption ready [.ansi, .sqlite] ["AUTOINCREMENT"]
  let ready ← readyOption ready [.ansi, .sqlite] ["ASC"]
  let ready ← readyOption ready [.ansi, .sqlite] ["DESC"]
  let onUpdate ← readyOption ready [.ansi, .mysql] ["ON", "UPDATE"]
  if ready.isSome then return ready
  else if onUpdate.isSome then return some ("ON UPDATE " ++ (← inner.termText))
  else if ← keyword "GENERATED" then generated inner
  else
    match ← if ← dialectIn [.ansi] then optionsAfter inner "OPTIONS" else pure none with
    | some options => return some ("OPTIONS" ++ inParentheses (commas options))
    | none =>
      let computed ← readyOption none [.ansi, .mysql, .sqlite] ["AS"]
      if computed.isSome then
        let value ← parenthesized inner.termText
        return some ("AS " ++ inParentheses value ++ (← keeping))
      else
        let counted ← readyOption none [.ansi] ["IDENTITY"]
        if counted.isSome then some <$> identity
        else if ← onlyIn [.ansi, .sqlite] (keywords ["ON", "CONFLICT"]) then
          let word ← expectOneOf ["ROLLBACK", "ABORT", "FAIL", "IGNORE", "REPLACE"]
          return some ("ON CONFLICT " ++ word)
        else return none

/-- An option of a column; `none` when none comes next. -/
def columnOption (inner : Inner) : Parser (Option String) := do
  match ← usualColumnOption inner with
  | some found => return some found
  | none => rareColumnOption inner

/-- The options of a column so far, the last one first, and its collation. -/
abbrev ColumnOptions := List String × Option String

/-- One more option of a column; `none` when none comes next. -/
def nextColumnOption (inner : Inner) (found : ColumnOptions) : Parser (Option ColumnOptions) := do
  if ← keyword "CONSTRAINT" then
    let name ← identifier
    match ← columnOption inner with
    | some text => return some (("CONSTRAINT " ++ name.text ++ " " ++ text) :: found.1, found.2)
    | none => expected "constraint details after CONSTRAINT <name>" (← peek)
  else
    match ← columnOption inner with
    | some text => return some (text :: found.1, found.2)
    | none =>
      if ← onlyIn [.ansi, .mysql] (keyword "COLLATE") then
        return some (found.1, some (← objectNameText))
      else return none

/-- Whether a column has no type. -/
def typeMissing : Parser Bool :=
  onlyIn [.sqlite] (do
    let t := (← peek).token
    match t with
    | .word _ _ =>
      return t.isOneOf ["CONSTRAINT", "PRIMARY", "NOT", "UNIQUE", "CHECK", "DEFAULT", "COLLATE",
        "REFERENCES", "GENERATED", "AS"]
    | _ => return true)

/-- A column. -/
def columnDefinition (inner : Inner) (type : Parser String) : Parser String := do
  let name ← identifier
  let type ← if ← typeMissing then pure "" else pure (" " ++ (← type))
  let collation ← afterKeyword "COLLATE" objectNameText
  let (options, collation) ← repeatedly (nextColumnOption inner) ([], collation)
  return name.text ++ type ++ clause "COLLATE " collation ++
    String.join (options.reverse.map (" " ++ ·))

end SelectBinding.Sql.Grammar
