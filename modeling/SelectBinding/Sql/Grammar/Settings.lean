import SelectBinding.Sql.Grammar.Nesting
import SelectBinding.Sql.Grammar.Transactions

/-!
Statements about variables, and statements that show what there is. Nothing is kept of them.
-/

namespace SelectBinding.Sql.Grammar

open Sql.Parser

/-! ### Setting variables -/

/-- A role that is taken on. -/
def roleChoice : Parser Unit := do
  expectKeyword "ROLE"
  unless ← keyword "NONE" do discard identifier

/-- What is set: the text of one variable, or nothing for several in parentheses. -/
def settingTarget : Parser (Option String) := do
  if ← keywords ["TIME", "ZONE"] then return some "TIMEZONE"
  else if ← onlyIn [.ansi] (sign "(") then
    let _ ← commaSeparated identifier
    expectSign ")"
    return none
  else return some (← objectNameText)

/-- The character set that texts are sent in, after the words for it. -/
def characterSet : Parser Unit := do
  unless ← keyword "DEFAULT" do
    let _ ← literalString
    discard (afterKeyword "COLLATE" literalString)

/-- The value of a variable. -/
def variableValue (inner : Inner) : Parser Unit := do
  if ← queryAhead then discard inner.query
  else
    match ← regardless inner.term with
    | some _ => return ()
    | none => expected "variable value" (← peek)

/-- The values of variables. -/
def variableValues (inner : Inner) : Parser Unit :=
  discard (commaSeparated (variableValue inner))

/-- A setting without a sign after its target. Within a session or a transaction, a transaction is
no target. -/
def signlessSetting (inner : Inner) (within : Bool) (target : String) : Parser Unit := do
  if Name.agree target "TIMEZONE" then
    match ← regardless inner.term with
    | some _ => return ()
    | none => expected "timezone value" (← peek)
  else if target == "CHARACTERISTICS" then
    expectKeywords ["AS", "TRANSACTION"]
    transactionModes
  else if target == "TRANSACTION" && !within then
    if ← keyword "SNAPSHOT" then discard literal else transactionModes
  else expected "equals sign or TO" (← peek)

/-- A setting of variables. -/
def variableSetting (inner : Inner) (within : Bool) : Parser Unit := do
  let target ← settingTarget
  if ← onlyIn [.ansi, .mysql] (return target.any fun text => Name.agree text "NAMES") then
    characterSet
  else
    let assigned ← if ← sign "=" then pure true else keyword "TO"
    match target, assigned with
    | some _, true => variableValues inner
    | none, true => parenthesized (variableValues inner)
    | some target, false => signlessSetting inner within target
    | none, false => expected "set variable" (← peek)

/-- A statement that sets variables, after the keyword. -/
def variableStatement (inner : Inner) : Parser Unit := do
  let modifier ← oneOf ["SESSION", "LOCAL", "HIVEVAR"]
  if modifier == some "HIVEVAR" then
    expectSign ":"
    variableSetting inner true
  else
    match ← maybe roleChoice with
    | some () => return ()
    | none => variableSetting inner modifier.isSome

/-! ### Switches -/

/-- The value of a switch: a number, a string or a parameter. -/
def switchValue : Parser Unit := do
  let t ← peek
  let _ ← literal
  match t.token with
  | .number _ _ | .parameter _ | .sign _ => return ()
  | .word _ (some '"') => return ()
  | .string .plain _ | .string .inDouble _ => return ()
  | _ => expected "number or string or ? placeholder" t

/-- A switch of the database, after the keyword. -/
def switch : Parser Unit := do
  let _ ← objectName
  if ← peekSign "(" then parenthesized switchValue
  else if ← sign "=" then switchValue
  else return ()

/-! ### Showing -/

/-- Which part is shown, perhaps not said. -/
def shownPart (inner : Inner) : Parser Unit := do
  match ← oneOf ["LIKE", "ILIKE"] with
  | some _ => discard literalString
  | none =>
    if ← keyword "WHERE" then discard inner.term else discard (maybe literalString)

/-- Whether the clauses about the first and the last one shown come next. -/
def shownRangeAhead : Parser Bool := do
  if ← peekKeyword "LIMIT" then return true
  else if ← peekKeyword "STARTS" then return (← peekAt 1).token.isKeyword "WITH"
  else return false

/-- Where it is that is shown, after the keyword. -/
def shownPlace : Parser Unit := do
  match ← oneOf ["ACCOUNT", "DATABASE", "SCHEMA", "TABLE", "VIEW"] with
  | none =>
    let _ ← objectName
    if (← oneOf ["FROM", "IN"]).isSome then discard identifier
  | some kind =>
    let nameless ←
      if ["DATABASE", "SCHEMA"].contains kind then shownRangeAhead else pure false
    unless nameless do discard (maybe objectName)

/-- What of many things of one kind is shown. -/
def shownSelection (inner : Inner) : Parser Unit := do
  if (← oneOf ["FROM", "IN"]).isSome then shownPlace
  shownPart inner
  if ← keywords ["STARTS", "WITH"] then discard literal
  if ← keyword "LIMIT" then
    unless ← keyword "ALL" do discard inner.term
  discard (afterKeyword "FROM" literal)

/-- The showing of schemas and databases, or of a variable. -/
def shownDatabases (inner : Inner) : Parser Unit := do
  if (← oneOf ["DATABASES", "SCHEMAS"]).isSome then
    let _ ← keyword "HISTORY"
    shownSelection inner
  else
    repeatedly (fun _ => do
      match (← peek).token with
      | .finish | .sign "=" | .sign ";" => return none
      | _ =>
        let _ ← next
        return some ()) ()

/-- The showing of a definition or of settings. The words for the settings are read in any
dialect. -/
def shownSettings (inner : Inner) : Parser Unit := do
  if ← keyword "CREATE" then
    let _ ← expectOneOf ["TABLE", "TRIGGER", "FUNCTION", "PROCEDURE", "EVENT", "VIEW"]
    discard objectName
  else if ← keyword "COLLATION" then shownPart inner
  else
    let known ← dialectIn [.ansi, .mysql]
    let allVariables ← keyword "VARIABLES"
    if allVariables && known then shownPart inner
    else
      let status ← keyword "STATUS"
      if status && known then shownPart inner else shownDatabases inner

/-- What is shown, after the keyword. -/
def showing (inner : Inner) : Parser Unit := do
  let _ ← keyword "TERSE"
  let extended ← keyword "EXTENDED"
  let full ← keyword "FULL"
  let _ ← keyword "SESSION"
  let _ ← keyword "GLOBAL"
  let external ← keyword "EXTERNAL"
  if (← oneOf ["COLUMNS", "FIELDS"]).isSome then shownSelection inner
  else if ← keyword "TABLES" then
    unless external do discard (keyword "HISTORY")
    shownSelection inner
  else if ← keywords ["MATERIALIZED", "VIEWS"] then shownSelection inner
  else if ← keyword "VIEWS" then shownSelection inner
  else if ← keyword "FUNCTIONS" then shownPart inner
  else if extended || full then
    fail "EXTENDED/FULL are not supported with this type of SHOW query"
  else shownSettings inner

/-! ### Remarks -/

/-- A remark on something that is defined, after the keyword. -/
def remark : Parser Unit := do
  let _ ← keywords ["IF", "EXISTS"]
  expectKeyword "ON"
  let t ← next
  unless t.token.isOneOf ["COLUMN", "DATABASE", "EXTENSION", "ROLE", "SCHEMA", "TABLE", "USER"] do
    expected "comment object_type" t
  let _ ← objectName
  expectKeyword "IS"
  unless ← keyword "NULL" do discard literalString

end SelectBinding.Sql.Grammar
