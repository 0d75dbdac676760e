import SelectBinding.Sql.Grammar.Rights
import SelectBinding.Sql.Grammar.Tables

/-!
Definitions of all that a database holds. Nothing is kept of them.
-/

namespace SelectBinding.Sql.Grammar

open Sql.Parser

/-- Whether a definition is left alone where the name is taken, perhaps not said. -/
def unlessThere : Parser Unit :=
  discard (keywords ["IF", "NOT", "EXISTS"])

/-! ### Views and indexes -/

/-- A column of a view. -/
def viewColumn (inner : Inner) : Parser Unit := do
  let _ ← identifier
  let optionAhead ← onlyIn [.ansi] (return (← peek).token.isOneOf ["OPTIONS", "COMMENT"])
  if optionAhead then discard (columnOption inner)

/-- The columns of a view, perhaps not said. -/
def viewColumns (inner : Inner) : Parser Unit := do
  if ← peekSign "(" then
    discard (parenthesized (commaSeparatedUpTo ")" (viewColumn inner)))

/-- A remark on a view, after the keyword. -/
def viewRemark : Parser Unit := do
  expectSign "="
  let t ← next
  match t.token with
  | .string .plain _ => return ()
  | _ => expected "string literal" t

/-- What only some dialects have between the columns and the query of a view. -/
def viewExtras (inner : Inner) : Parser Unit := do
  if ← dialectIn [.ansi] then
    let _ ← optionsAfter inner "OPTIONS"
    let _ ← afterKeyword "TO" objectName
    discard (afterKeyword "COMMENT" viewRemark)

/-- A view, after the keyword. -/
def viewDefinition (inner : Inner) : Parser Unit := do
  if ← dialectIn [.ansi, .sqlite] then unlessThere
  let _ ← objectName
  viewColumns inner
  let _ ← optionsAfter inner "WITH"
  if ← keyword "CLUSTER" then
    expectKeyword "BY"
    discard optionalColumnNames
  viewExtras inner
  expectKeyword "AS"
  let _ ← inner.query
  discard (onlyIn [.ansi] (keywords ["WITH", "NO", "SCHEMA", "BINDING"]))

/-- The name of an index, perhaps none, and the keyword after it. -/
def indexName : Parser Unit := do
  if ← keywords ["IF", "NOT", "EXISTS"] then
    let _ ← objectName
    expectKeyword "ON"
  else
    unless ← keyword "ON" do
      let _ ← objectName
      expectKeyword "ON"

/-- An index, after the keyword. -/
def indexDefinition (inner : Inner) : Parser Unit := do
  let _ ← keyword "CONCURRENTLY"
  indexName
  let _ ← objectName
  let _ ← afterKeyword "USING" identifier
  let _ ← parenthesized (sortTerms inner)
  let _ ← afterKeyword "INCLUDE" (parenthesized (commaSeparated identifier))
  nullsAsEqual
  if ← onlyIn [.ansi, .postgres] (keyword "WITH") then termsInParentheses inner
  discard (afterKeyword "WHERE" inner.term)

/-! ### Functions and what they are called by -/

/-- An argument that a function takes. What looks like a type that the grammar does not know is the
name of the argument. -/
def functionArgument (inner : Inner) : Parser Unit := do
  let _ ← oneOf ["IN", "OUT", "INOUT"]
  match ← dataType inner with
  | .unknown _ => discard (dataType inner)
  | _ => pure ()
  let preset ← if ← keyword "DEFAULT" then pure true else sign "="
  if preset then discard inner.term

/-- A function by its name and perhaps the arguments it takes. -/
def functionDescription (inner : Inner) : Parser Unit := do
  let _ ← objectName
  if ← peekSign "(" then
    discard (parenthesized (commaSeparatedUpTo ")" (functionArgument inner)))

/-- What a function does, after the keyword. -/
def functionText : Parser Unit := do
  match (← peek).token with
  | .string (.inDollars _) _ => discard next
  | _ => discard literalString

/-- What is said about a function: what it does, its language, whether it answers the same every
time, what it does with null, and whether it may run beside itself. -/
inductive FunctionTopic where
  | body
  | language
  | behavior
  | onNull
  | parallel
deriving DecidableEq

/-- Something that is said about a function, with the name for it where it is said twice; `none`
when nothing comes next. -/
def functionTopic : Parser (Option (FunctionTopic × String)) := do
  let onNull := "CALLED ON NULL INPUT | RETURNS NULL ON NULL INPUT | STRICT"
  match ← oneOf ["AS", "LANGUAGE", "IMMUTABLE", "STABLE", "VOLATILE", "STRICT", "PARALLEL",
      "RETURN"] with
  | some "AS" => return some (.body, "AS")
  | some "LANGUAGE" => return some (.language, "LANGUAGE")
  | some "STRICT" => return some (.onNull, onNull)
  | some "PARALLEL" =>
    return some (.parallel, "PARALLEL \x7b UNSAFE | RESTRICTED | SAFE \x7d")
  | some "RETURN" => return some (.body, "RETURN")
  | some _ => return some (.behavior, "IMMUTABLE | STABLE | VOLATILE")
  | none =>
    if ← keywords ["CALLED", "ON", "NULL", "INPUT"] then return some (.onNull, onNull)
    else if ← keywords ["RETURNS", "NULL", "ON", "NULL", "INPUT"] then
      return some (.onNull, onNull)
    else return none

/-- The rest of what is said about a function. -/
def functionDetail (inner : Inner) (topic : FunctionTopic) (words : String) : Parser Unit := do
  match topic with
  | .body => if words == "AS" then functionText else discard inner.term
  | .language => discard identifier
  | .parallel =>
    if (← oneOf ["UNSAFE", "RESTRICTED", "SAFE"]).isNone then
      expected "one of UNSAFE | RESTRICTED | SAFE" (← peek)
  | .behavior | .onNull => return ()

/-- One more thing that is said about a function, `seen` being those before it; `none` when nothing
comes next. -/
def functionClause (inner : Inner) (seen : List FunctionTopic) :
    Parser (Option (List FunctionTopic)) := do
  match ← functionTopic with
  | none => return none
  | some (topic, words) =>
    if seen.contains topic then fail (words ++ " specified more than once")
    else
      functionDetail inner topic words
      return some (topic :: seen)

/-- A function, after its keyword `t`. -/
def functionDefinition (inner : Inner) (t : Located) : Parser Unit := do
  unless ← dialectIn [.ansi, .postgres] do expected "an object type after CREATE" t
  let _ ← objectName
  let _ ← parenthesized (commaSeparatedUpTo ")" (functionArgument inner))
  let _ ← afterKeyword "RETURNS" (dataType inner)
  discard (repeatedly (functionClause inner) [])

/-- What sets off a trigger. -/
def triggerEvent : Parser Unit := do
  let word ← expectOneOf ["INSERT", "UPDATE", "DELETE", "TRUNCATE"]
  if word == "UPDATE" then discard (afterKeyword "OF" (commaSeparated identifier))

/-- A name for the rows before or after a change; `none` when none comes next. The first word is
read in any case. -/
def triggerTable : Parser (Option Unit) := do
  match ← oneOf ["OLD", "NEW"] with
  | none => return none
  | some _ =>
    if ← keyword "TABLE" then
      let _ ← keyword "AS"
      let _ ← objectName
      return some ()
    else return none

/-- A trigger, after its last keyword `t`. -/
def triggerDefinition (inner : Inner) (t : Located) : Parser Unit := do
  unless ← dialectIn [.ansi, .postgres] do expected "an object type after CREATE" t
  let _ ← objectName
  if (← expectOneOf ["BEFORE", "AFTER", "INSTEAD"]) == "INSTEAD" then expectKeyword "OF"
  triggerEvent
  let _ ← many (keyword "OR") triggerEvent
  expectKeyword "ON"
  let _ ← objectName
  if ← keyword "FROM" then discard (regardless objectName)
  let _ ← checking
  if ← keyword "REFERENCING" then repeatedly (fun _ => triggerTable) ()
  expectKeyword "FOR"
  let _ ← keyword "EACH"
  let _ ← expectOneOf ["ROW", "STATEMENT"]
  let _ ← afterKeyword "WHEN" inner.term
  expectKeyword "EXECUTE"
  let _ ← expectOneOf ["FUNCTION", "PROCEDURE"]
  functionDescription inner

/-- An argument that a term with a name takes. -/
def namedTermArgument (inner : Inner) : Parser Unit := do
  let _ ← identifier
  let preset ← if ← sign ":=" then pure true else sign "=>"
  if preset then discard inner.term

/-- A term or a query with a name, after its keyword `t`. -/
def namedTermDefinition (inner : Inner) (t : Located) : Parser Unit := do
  unless ← dialectIn [.ansi] do expected "an object type after CREATE" t
  let _ ← objectName
  let _ ← parenthesized (commaSeparatedUpTo ")" (namedTermArgument inner))
  expectKeyword "AS"
  if ← keyword "TABLE" then discard inner.query else discard inner.term

/-- A parameter of a procedure; `none` at the end of the parameters. A comma may stand before their
end, and without a parameter before it. -/
def procedureParameter (inner : Inner) : Parser (Option Unit) := do
  match (← peek).token with
  | .word _ _ =>
    let _ ← identifier
    discard (dataType inner)
  | _ => pure ()
  let comma ← sign ","
  if ← sign ")" then return none
  else if comma then return some ()
  else expected "',' or ')' after parameter definition" (← peek)

/-- A procedure, after the keyword. The parser of the statements in it is given. -/
def procedureDefinition (inner : Inner) (statements : Parser Unit) : Parser Unit := do
  let _ ← objectName
  if ← sign "(" then
    unless ← sign ")" do repeatedly (fun _ => procedureParameter inner) ()
  expectKeywords ["AS", "BEGIN"]
  statements
  expectKeyword "END"

/-! ### Other definitions -/

/-- Where a secret is stored and what it is called, as far as it is said. A name is read as far
as it is one. -/
def secretName : Parser Unit := do
  unless ← peekSign "(" do
    let stored ←
      if ← keyword "IN" then pure (← regardless identifier).isSome
      else do
        let _ ← regardless identifier
        pure false
    unless stored do
      unless ← peekSign "(" do
        if ← keyword "IN" then discard (regardless identifier)

/-- A secret, after the keyword. -/
def secretDefinition : Parser Unit := do
  unlessThere
  secretName
  parenthesized (do
    expectKeyword "TYPE"
    let _ ← identifier
    if ← sign "," then
      discard (commaSeparated (do
        let _ ← identifier
        identifier)))

/-- An extension, after the keyword. -/
def extensionDefinition : Parser Unit := do
  unlessThere
  let _ ← identifier
  if ← keyword "WITH" then
    let _ ← afterKeyword "SCHEMA" identifier
    let _ ← afterKeyword "VERSION" identifier
    discard (keyword "CASCADE")

/-- A table that a module provides, after its first keyword. -/
def virtualTableDefinition : Parser Unit := do
  expectKeyword "TABLE"
  unlessThere
  let _ ← objectName
  expectKeyword "USING"
  let _ ← identifier
  discard optionalColumnNames

/-- A schema, after the keyword. -/
def schemaDefinition : Parser Unit := do
  unlessThere
  if ← keyword "AUTHORIZATION" then discard identifier
  else
    let _ ← objectName
    discard (afterKeyword "AUTHORIZATION" identifier)

/-- A database, after the keyword. -/
def databaseDefinition : Parser Unit := do
  unlessThere
  let _ ← objectName
  discard (many (return (← oneOf ["LOCATION", "MANAGEDLOCATION"]).isSome) literalString)

/-- A sequence, after the keyword. -/
def sequenceDefinition (inner : Inner) : Parser Unit := do
  unlessThere
  let _ ← objectName
  let _ ← afterKeyword "AS" (dataType inner)
  let _ ← sequenceOptions
  if ← keywords ["OWNED", "BY"] then
    unless ← keyword "NONE" do discard objectName

/-- An attribute of a type; `none` at the end of the attributes. A comma may stand before their
end. -/
def typeAttribute (inner : Inner) : Parser (Option Unit) := do
  let _ ← identifier
  let _ ← dataType inner
  let _ ← afterKeyword "COLLATE" objectName
  let comma ← sign ","
  if ← sign ")" then return none
  else if comma then return some ()
  else expected "',' or ')' after attribute definition" (← peek)

/-- A type, after the keyword. -/
def typeDefinition (inner : Inner) : Parser Unit := do
  let _ ← objectName
  expectKeyword "AS"
  if ← sign "(" then
    unless ← sign ")" do repeatedly (fun _ => typeAttribute inner) ()

/-- The name of a type of values that are listed, if a definition of one comes next. -/
def enumerationName : Parser (Option Unit) :=
  maybe (do
    expectKeywords ["CREATE", "TYPE"]
    let _ ← objectName
    expectKeywords ["AS", "ENUM"])

/-- The values of a type of values that are listed. -/
def enumeration : Parser Unit :=
  discard (parenthesized (commaSeparatedUpTo ")" identifier))

/-! ### All definitions -/

/-- A definition that may take the place of another one, after the words about that; `none` when
none comes next. -/
def replaceableDefinition (inner : Inner) : Parser (Option Unit) := do
  let t ← peek
  let last ← peekAt 1
  if ← keyword "TABLE" then some <$> tableDefinition inner
  else if ← keyword "MATERIALIZED" then
    expectKeyword "VIEW"
    some <$> viewDefinition inner
  else if ← keyword "VIEW" then some <$> viewDefinition inner
  else if ← keyword "POLICY" then some <$> policyDefinition inner
  else if ← keyword "EXTERNAL" then some <$> externalTableDefinition inner
  else if ← keyword "FUNCTION" then some <$> functionDefinition inner t
  else if ← keyword "TRIGGER" then some <$> triggerDefinition inner t
  else if ← keywords ["CONSTRAINT", "TRIGGER"] then some <$> triggerDefinition inner last
  else if ← keyword "MACRO" then some <$> namedTermDefinition inner t
  else if ← keyword "SECRET" then some <$> secretDefinition
  else return none

/-- A definition that takes the place of no other one. The parser of the statements in it is
given. -/
def otherDefinition (inner : Inner) (statements : Parser Unit) : Parser Unit := do
  if ← keywords ["UNIQUE", "INDEX"] then indexDefinition inner
  else
    match ← oneOf ["EXTENSION", "INDEX", "VIRTUAL", "SCHEMA", "DATABASE", "ROLE", "SEQUENCE",
        "TYPE", "PROCEDURE"] with
    | some "EXTENSION" => extensionDefinition
    | some "INDEX" => indexDefinition inner
    | some "VIRTUAL" => virtualTableDefinition
    | some "SCHEMA" => schemaDefinition
    | some "DATABASE" => databaseDefinition
    | some "ROLE" => roleDefinition
    | some "SEQUENCE" => sequenceDefinition inner
    | some "TYPE" => typeDefinition inner
    | some _ => procedureDefinition inner statements
    | none => expected "an object type after CREATE" (← peek)

/-- A definition, after the keyword. The parser of the statements in it is given. -/
def definition (inner : Inner) (statements : Parser Unit) : Parser Unit := do
  let replacing ← keywords ["OR", "REPLACE"]
  let _ ← keywords ["OR", "ALTER"]
  let _ ← keyword "LOCAL"
  let _ ← keyword "GLOBAL"
  let _ ← keyword "TRANSIENT"
  let _ ← oneOf ["TEMP", "TEMPORARY"]
  match ← replaceableDefinition inner with
  | some () => return ()
  | none =>
    if replacing then
      expected ("[EXTERNAL] TABLE or [MATERIALIZED] VIEW or FUNCTION " ++
        "after CREATE OR REPLACE") (← peek)
    else otherDefinition inner statements

end SelectBinding.Sql.Grammar
