import SelectBinding.Sql.Grammar.Nesting

/-!
Statements about rights: who may do what, roles, and policies on the rows of tables. Nothing is kept
of them.
-/

namespace SelectBinding.Sql.Grammar

open Sql.Parser

/-! ### Granting and revoking -/

/-- A right, perhaps on some columns only. -/
def right : Parser Unit := do
  match ← oneOf ["CONNECT", "CREATE", "DELETE", "EXECUTE", "TEMPORARY", "TRIGGER", "TRUNCATE",
      "USAGE"] with
  | some _ => return ()
  | none =>
    match ← oneOf ["INSERT", "REFERENCES", "SELECT", "UPDATE"] with
    | some _ => discard optionalColumnNames
    | none => expected "a privilege keyword" (← peek)

/-- Rights and what they are on. -/
def rightsOn : Parser Unit := do
  if ← keyword "ALL" then
    let _ ← keyword "PRIVILEGES"
  else
    let _ ← commaSeparated right
  expectKeyword "ON"
  unless ← keywords ["ALL", "TABLES", "IN", "SCHEMA"] do
    unless ← keywords ["ALL", "SEQUENCES", "IN", "SCHEMA"] do
      let _ ← oneOf ["SEQUENCE", "SCHEMA", "TABLE"]
  discard (commaSeparated objectName)

/-- Who gave a right, perhaps not said. -/
def grantor : Parser Unit := do
  if ← keywords ["GRANTED", "BY"] then
    let _ ← identifier

/-- The granting of rights, after the keyword. -/
def granting : Parser Unit := do
  rightsOn
  expectKeyword "TO"
  let _ ← commaSeparated identifier
  let _ ← keywords ["WITH", "GRANT", "OPTION"]
  grantor

/-- The revoking of rights, after the keyword. -/
def revoking : Parser Unit := do
  rightsOn
  expectKeyword "FROM"
  let _ ← commaSeparated identifier
  grantor
  let place := (← peek).place
  let cascade ← keyword "CASCADE"
  let restrict ← keyword "RESTRICT"
  if cascade && restrict then failAt "Cannot specify both CASCADE and RESTRICT in REVOKE" place

/-! ### Roles -/

/-- Whoever something belongs to. -/
def owner : Parser Unit := do
  match ← oneOf ["CURRENT_USER", "CURRENT_ROLE", "SESSION_USER"] with
  | some _ => return ()
  | none =>
    let t ← peek
    match ← maybe identifier with
    | some _ => return ()
    | none =>
      expected ("CURRENT_USER, CURRENT_ROLE, SESSION_USER or identifier after OWNER TO. " ++
        "sql parser error: Expected: identifier") t

/-- The rights that a role has or has not by a single word. -/
def roleSwitches : List String :=
  ["LOGIN", "INHERIT", "BYPASSRLS", "CREATEDB", "CREATEROLE", "SUPERUSER", "REPLICATION"]

/-- The options of a role that are single words, with what each is about: the pair of the word that
gives a right and the word that takes it. -/
def roleWords : List (String × String) :=
  roleSwitches.flatMap fun word =>
    let topic := word ++ " or NO" ++ word
    [(word, topic), ("NO" ++ word, topic)]

/-- A password, after the keyword. -/
def password : Parser Unit := do
  unless ← keyword "NULL" do discard literal

/-- The value of an option of a role, after the keyword: what it is about, and how it is read. -/
def roleValue (word : String) : Parser (String × Parser Unit) := do
  let names : Parser Unit := discard (commaSeparated identifier)
  match word with
  | "PASSWORD" => return ("PASSWORD", password)
  | "CONNECTION" =>
    expectKeyword "LIMIT"
    return ("CONNECTION LIMIT", discard numeral)
  | "VALID" =>
    expectKeyword "UNTIL"
    return ("VALID UNTIL", discard literal)
  | "IN" =>
    if ← keyword "ROLE" then return ("IN ROLE", names)
    else if ← keyword "GROUP" then return ("IN GROUP", names)
    else expected "ROLE or GROUP after IN" (← peek)
  | word =>
    match roleWords.lookup word with
    | some topic => return (topic, pure ())
    | none => return (word, names)

/-- One more option of a new role, `seen` being what the options before it are about; `none` when
none comes next. -/
def newRoleOption (seen : List String) : Parser (Option (List String)) := do
  let place := (← peek).place
  match ← oneOf (roleWords.map Prod.fst ++
      ["PASSWORD", "CONNECTION", "VALID", "IN", "ROLE", "ADMIN", "USER"]) with
  | none => return none
  | some word =>
    let (topic, value) ← roleValue word
    if seen.contains topic then failAt ("Found multiple " ++ topic) place
    else
      value
      return some (topic :: seen)

/-- A new role, after the keyword. -/
def roleDefinition : Parser Unit := do
  let _ ← keywords ["IF", "NOT", "EXISTS"]
  let _ ← commaSeparated objectName
  let _ ← keyword "WITH"
  if ← dialectIn [.postgres] then
    let _ ← repeatedly newRoleOption []

/-- An option of a role that is there already. -/
def roleOption : Parser Unit := do
  match ← oneOf (roleWords.map Prod.fst ++ ["PASSWORD", "CONNECTION", "VALID"]) with
  | some word =>
    let (_, value) ← roleValue word
    value
  | none => expected "option" (← peek)

/-- A setting of a role, after the keyword. -/
def roleSetting (inner : Inner) : Parser Unit := do
  let _ ← objectName
  unless ← keywords ["FROM", "CURRENT"] do
    let equals ← if ← sign "=" then pure true else keyword "TO"
    if equals then
      unless ← keyword "DEFAULT" do
        match ← regardless inner.term with
        | some _ => return ()
        | none => expected "config value" (← peek)
    else expected "'TO' or '=' or 'FROM CURRENT'" (← peek)

/-- A change to a role, after the keyword. -/
def roleAlteration (inner : Inner) : Parser Unit := do
  unless ← dialectIn [.postgres] do
    fail "ALTER ROLE is only support for PostgreSqlDialect, MsSqlDialect"
  let _ ← identifier
  if ← keywords ["IN", "DATABASE"] then
    let _ ← regardless objectName
  if ← keyword "RENAME" then
    if ← keyword "TO" then discard identifier else expected "TO after RENAME" (← peek)
  else if ← keyword "SET" then roleSetting inner
  else if ← keyword "RESET" then
    unless ← keyword "ALL" do discard objectName
  else
    let _ ← keyword "WITH"
    let found ← repeatedly (fun _ => do
      match ← maybe roleOption with
      | some () => return some true
      | none => return none) false
    unless found do expected "option" (← peek)

/-! ### Policies -/

/-- Whom a policy is for and which rows it lets through, as far as it is said. -/
def policyRules (inner : Inner) : Parser Unit := do
  let _ ← afterKeyword "TO" (commaSeparated owner)
  let _ ← afterKeyword "USING" (parenthesized inner.term)
  if ← keywords ["WITH", "CHECK"] then discard (parenthesized inner.term)

/-- The name of a policy and the table it is on. -/
def policyName : Parser Unit := do
  let _ ← identifier
  expectKeyword "ON"
  discard objectName

/-- A new policy, after the keyword. -/
def policyDefinition (inner : Inner) : Parser Unit := do
  policyName
  let _ ← afterKeyword "AS" (expectOneOf ["PERMISSIVE", "RESTRICTIVE"])
  let _ ← afterKeyword "FOR" (expectOneOf ["ALL", "SELECT", "INSERT", "UPDATE", "DELETE"])
  policyRules inner

/-- A change to a policy, after the keyword. -/
def policyAlteration (inner : Inner) : Parser Unit := do
  policyName
  if ← keyword "RENAME" then
    expectKeyword "TO"
    discard identifier
  else policyRules inner

end SelectBinding.Sql.Grammar
