import SelectBinding.Sql.Grammar.Names

/-!
Statements about transactions. Nothing is kept of them.
-/

namespace SelectBinding.Sql.Grammar

open Sql.Parser

/-- The words of a transaction that may be left out. -/
def transactionWord : Parser Unit := do
  let _ ← oneOf ["TRANSACTION", "WORK"]

/-- A property of a transaction; `none` when no property comes next. -/
def transactionMode : Parser (Option Unit) := do
  if ← keywords ["ISOLATION", "LEVEL"] then
    if ← keywords ["READ", "UNCOMMITTED"] then return some ()
    else if ← keywords ["READ", "COMMITTED"] then return some ()
    else if ← keywords ["REPEATABLE", "READ"] then return some ()
    else if ← keyword "SERIALIZABLE" then return some ()
    else expected "isolation level" (← peek)
  else if ← keywords ["READ", "ONLY"] then return some ()
  else if ← keywords ["READ", "WRITE"] then return some ()
  else return none

/-- The properties of a transaction, perhaps none. Commas may stand between them. -/
def transactionModes : Parser Unit := do
  let _ ← repeatedly (fun afterComma => do
    match ← transactionMode with
    | some () => return some (← sign ",")
    | none => if afterComma then expected "transaction mode" (← peek) else return none) false

/-- The end of a transaction, after the keyword. -/
def transactionEnd : Parser Unit := do
  transactionWord
  if ← keyword "AND" then
    let _ ← keyword "NO"
    expectKeyword "CHAIN"

/-- A statement about transactions, after its first word; `none` when none begins with it. -/
def transaction (word : String) : Parser (Option Unit) := do
  match word with
  | "BEGIN" =>
    if ← dialectIn [.ansi, .sqlite] then
      let _ ← oneOf ["DEFERRED", "IMMEDIATE", "EXCLUSIVE"]
    transactionWord
    some <$> transactionModes
  | "START" =>
    expectKeyword "TRANSACTION"
    some <$> transactionModes
  | "COMMIT" | "END" => some <$> transactionEnd
  | "ROLLBACK" =>
    transactionEnd
    if ← keyword "TO" then
      let _ ← keyword "SAVEPOINT"
      let _ ← identifier
    return some ()
  | "SAVEPOINT" =>
    let _ ← identifier
    return some ()
  | "RELEASE" =>
    let _ ← keyword "SAVEPOINT"
    let _ ← identifier
    return some ()
  | _ => return none

end SelectBinding.Sql.Grammar
