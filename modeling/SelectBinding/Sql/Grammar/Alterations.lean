import SelectBinding.Sql.Grammar.Definitions

/-!
Changes to what was defined, and its removal. Nothing is kept of them.
-/

namespace SelectBinding.Sql.Grammar

open Sql.Parser

/-- Whether a statement is left alone where there is nothing of that name, perhaps not said. -/
def ifThere : Parser Unit :=
  discard (keywords ["IF", "EXISTS"])

/-! ### Removal -/

/-- What happens to all that depends on something that is removed, perhaps not said. -/
def dependents : Parser Unit :=
  discard (oneOf ["CASCADE", "RESTRICT"])

/-- The removal of things by their names, after the keyword for their kind. -/
def plainRemoval (kind : String) : Parser Unit := do
  ifThere
  let _ ← commaSeparated objectName
  let place := (← peek).place
  let cascade ← keyword "CASCADE"
  let restrict ← keyword "RESTRICT"
  let purge ← keyword "PURGE"
  if cascade && restrict then failAt "Cannot specify both CASCADE and RESTRICT in DROP" place
  else if kind == "ROLE" && (cascade || restrict || purge) then
    failAt "Cannot specify CASCADE, RESTRICT, or PURGE in DROP ROLE" place
  else return ()

/-- The removal of a secret, after the keyword. -/
def secretRemoval : Parser Unit := do
  ifThere
  let _ ← identifier
  if ← keyword "FROM" then discard (regardless identifier)

/-- The removal of a trigger, after its keyword `t`. -/
def triggerRemoval (t : Located) : Parser Unit := do
  unless ← dialectIn [.ansi, .postgres] do expected "an object type after DROP" t
  ifThere
  let _ ← objectName
  expectKeyword "ON"
  let _ ← objectName
  dependents

/-- The removal of what was defined, after the keyword. -/
def removal (inner : Inner) : Parser Unit := do
  let _ ← onlyIn [.ansi, .mysql] (keyword "TEMPORARY")
  let t ← peek
  match ← oneOf ["TABLE", "VIEW", "INDEX", "ROLE", "SCHEMA", "DATABASE", "SEQUENCE", "STAGE",
      "TYPE", "FUNCTION", "POLICY", "PROCEDURE", "SECRET", "TRIGGER"] with
  | none =>
    expected ("TABLE, VIEW, INDEX, ROLE, SCHEMA, DATABASE, FUNCTION, PROCEDURE, STAGE, TRIGGER, " ++
      "SECRET, SEQUENCE, or TYPE after DROP") t
  | some "FUNCTION" | some "PROCEDURE" =>
    ifThere
    let _ ← commaSeparated (functionDescription inner)
    dependents
  | some "POLICY" =>
    ifThere
    policyName
    dependents
  | some "SECRET" => secretRemoval
  | some "TRIGGER" => triggerRemoval t
  | some kind => plainRemoval kind

/-! ### Changes to tables -/

/-- Where a column comes among the others, perhaps not said. -/
def columnPlace : Parser Unit := do
  if ← dialectIn [.ansi, .mysql] then
    unless ← keyword "FIRST" do discard (afterKeyword "AFTER" identifier)

/-- A projection that is added, after the keyword. -/
def projection (inner : Inner) : Parser Unit := do
  unlessThere
  let _ ← identifier
  parenthesized (do
    expectKeyword "SELECT"
    let _ ← commaSeparated (selectItem inner)
    let _ ← grouping inner
    discard (optionalSorting inner))

/-- The addition of parts of a table or of a column to it. -/
def columnAddition (inner : Inner) : Parser Unit := do
  unlessThere
  let parts ← many (keyword "PARTITION") (termsInParentheses inner)
  if parts.isEmpty then
    let _ ← keyword "COLUMN"
    if ← dialectIn [.ansi, .postgres] then unlessThere
    tableColumn inner
    columnPlace

/-- An addition to a table, after the keyword. -/
def addition (inner : Inner) : Parser Unit := do
  match ← tableRule inner with
  | some () => return ()
  | none =>
    if ← onlyIn [.ansi] (keyword "PROJECTION") then projection inner else columnAddition inner

/-- A change of names, after the keyword. -/
def newNames : Parser Unit := do
  let twoNames : Parser Unit := do
    let _ ← identifier
    expectKeyword "TO"
    discard identifier
  if ← onlyIn [.postgres] (keyword "CONSTRAINT") then twoNames
  else if ← keyword "TO" then discard objectName
  else
    let _ ← keyword "COLUMN"
    twoNames

/-- What is switched off, after the keyword. -/
def disabling : Parser Unit := do
  unless ← keywords ["ROW", "LEVEL", "SECURITY"] do
    if (← oneOf ["RULE", "TRIGGER"]).isSome then discard identifier
    else expected "ROW LEVEL SECURITY, RULE, or TRIGGER after DISABLE" (← peek)

/-- What is switched on, after the keyword. -/
def enabling : Parser Unit := do
  let kinds : List (List String) :=
    [["ALWAYS", "RULE"], ["ALWAYS", "TRIGGER"], ["REPLICA", "RULE"], ["REPLICA", "TRIGGER"],
     ["RULE"], ["TRIGGER"]]
  unless ← keywords ["ROW", "LEVEL", "SECURITY"] do
    if ← kinds.anyM keywords then discard identifier
    else expected "ALWAYS, REPLICA, ROW LEVEL SECURITY, RULE, or TRIGGER after ENABLE" (← peek)

/-- A projection and perhaps the part of the table that it is filled or emptied for, after the
keywords. -/
def projectionPart : Parser Unit := do
  ifThere
  let _ ← identifier
  if ← keywords ["IN", "PARTITION"] then discard identifier

/-- The removal of a constraint, after the keyword, or of a column. -/
def columnRemoval : Parser Unit := do
  ifThere
  let _ ← identifier
  discard (keyword "CASCADE")

/-- The removal of something of a table, after the keyword. Some words are read in any dialect;
where they mean nothing, what comes next still may. -/
def partRemoval (inner : Inner) : Parser Unit := do
  let known ← dialectIn [.ansi]
  if ← keywords ["IF", "EXISTS", "PARTITION"] then termsInParentheses inner
  else if ← keyword "PARTITION" then termsInParentheses inner
  else if ← keyword "CONSTRAINT" then columnRemoval
  else
    let primaryKey ← keywords ["PRIMARY", "KEY"]
    if primaryKey && (← dialectIn [.ansi, .mysql]) then return ()
    else
      let projection ← keyword "PROJECTION"
      if projection && known then
        ifThere
        discard identifier
      else
        unless ← keywords ["CLUSTERING", "KEY"] do
          let _ ← keyword "COLUMN"
          columnRemoval

/-- A part of a table with other values, after the keyword. -/
def partRenaming (inner : Inner) : Parser Unit := do
  termsInParentheses inner
  expectKeywords ["RENAME", "TO", "PARTITION"]
  termsInParentheses inner

/-- The type of a column that gets another one, its options and its place. -/
def columnChange (inner : Inner) : Parser Unit := do
  let _ ← dataType inner
  repeatedly (fun _ => do
    match ← columnOption inner with
    | some _ => return some ()
    | none => return none) ()
  columnPlace

/-- What a column gets from a sequence, after the words for it. -/
def columnSequence : Parser Unit := do
  unless ← keyword "ALWAYS" do discard (keywords ["BY", "DEFAULT"])
  expectKeywords ["AS", "IDENTITY"]
  if ← peekSign "(" then discard (parenthesized sequenceOptions)

/-- A change to a column, after its name. -/
def columnAlteration (inner : Inner) : Parser Unit := do
  let postgres ← dialectIn [.postgres]
  if ← keywords ["SET", "NOT", "NULL"] then return ()
  else if ← keywords ["DROP", "NOT", "NULL"] then return ()
  else if ← keywords ["SET", "DEFAULT"] then discard inner.term
  else if ← keywords ["DROP", "DEFAULT"] then return ()
  else
    let typed ←
      if ← keywords ["SET", "DATA", "TYPE"] then pure true
      else onlyIn [.postgres] (keyword "TYPE")
    if typed then
      let _ ← dataType inner
      if postgres then discard (afterKeyword "USING" inner.term)
    else if ← keywords ["ADD", "GENERATED"] then columnSequence
    else
      let choices :=
        if postgres then "SET DATA TYPE, or ADD GENERATED" else "or SET DATA TYPE"
      expected ("SET/DROP NOT NULL, SET DEFAULT, " ++ choices ++ " after ALTER COLUMN") (← peek)

/-- A part of a table that is attached, detached or frozen, after the keyword. -/
def tablePart (inner : Inner) : Parser Unit := do
  let _ ← expectOneOf ["PART", "PARTITION"]
  discard inner.term

/-- A part of a table that is kept for later or given back, after the keyword. -/
def frozenPart (inner : Inner) : Parser Unit := do
  tablePart inner
  if ← keyword "WITH" then
    expectKeyword "NAME"
    discard identifier

/-- A change to how a table is kept. -/
def storageChange (inner : Inner) : Parser Unit := do
  if ← keyword "SWAP" then
    expectKeyword "WITH"
    discard objectName
  else if ← onlyIn [.ansi, .postgres] (keywords ["OWNER", "TO"]) then owner
  else if ← onlyIn [.ansi] (return (← oneOf ["ATTACH", "DETACH"]).isSome) then tablePart inner
  else if ← onlyIn [.ansi] (return (← oneOf ["FREEZE", "UNFREEZE"]).isSome) then frozenPart inner
  else if ← keywords ["CLUSTER", "BY"] then termsInParentheses inner
  else if ← keywords ["SUSPEND", "RECLUSTER"] then return ()
  else if ← keywords ["RESUME", "RECLUSTER"] then return ()
  else if ← keywords ["SET", "TBLPROPERTIES"] then
    discard (parenthesized (commaSeparated (option inner)))
  else
    expected "ADD, RENAME, PARTITION, SWAP, DROP, or SET TBLPROPERTIES after ALTER TABLE" (← peek)

/-- A change to the columns of a table or to how it is kept. -/
def columnOrStorageChange (inner : Inner) : Parser Unit := do
  match ← oneOf ["DROP", "PARTITION", "CHANGE", "MODIFY", "ALTER"] with
  | none => storageChange inner
  | some "DROP" => partRemoval inner
  | some "PARTITION" => partRenaming inner
  | some word =>
    let _ ← keyword "COLUMN"
    let _ ← identifier
    if word == "ALTER" then columnAlteration inner
    else
      if word == "CHANGE" then discard identifier
      columnChange inner

/-- A change to a table. -/
def tableChange (inner : Inner) : Parser Unit := do
  match ← oneOf ["ADD", "RENAME", "DISABLE", "ENABLE"] with
  | some "ADD" => addition inner
  | some "RENAME" => newNames
  | some "DISABLE" => disabling
  | some _ => enabling
  | none =>
    let known ← dialectIn [.ansi]
    let cleared ← keywords ["CLEAR", "PROJECTION"]
    if cleared && known then projectionPart
    else
      let filled ← keywords ["MATERIALIZE", "PROJECTION"]
      if filled && known then projectionPart else columnOrStorageChange inner

/-! ### All changes -/

/-- A change to a table, after the keyword. -/
def tableAlteration (inner : Inner) : Parser Unit := do
  ifThere
  let _ ← keyword "ONLY"
  let _ ← objectName
  onCluster
  let _ ← commaSeparated (tableChange inner)
  let located ← if ← keyword "LOCATION" then pure true else keywords ["SET", "LOCATION"]
  if located then discard identifier

/-- A view with another query, after the keyword. -/
def viewAlteration (inner : Inner) : Parser Unit := do
  let _ ← objectName
  let _ ← optionalColumnNames
  let _ ← optionsAfter inner "WITH"
  expectKeyword "AS"
  discard inner.query

/-- An index with another name, after the keyword. -/
def indexAlteration : Parser Unit := do
  let _ ← objectName
  unless ← keyword "RENAME" do expected "RENAME after ALTER INDEX" (← peek)
  unless ← keyword "TO" do expected "TO after RENAME" (← peek)
  discard objectName

/-- A change to what was defined, after the keyword. -/
def alteration (inner : Inner) : Parser Unit := do
  match ← expectOneOf ["VIEW", "TABLE", "INDEX", "ROLE", "POLICY"] with
  | "VIEW" => viewAlteration inner
  | "TABLE" => tableAlteration inner
  | "INDEX" => indexAlteration
  | "ROLE" => roleAlteration inner
  | _ => policyAlteration inner

end SelectBinding.Sql.Grammar
