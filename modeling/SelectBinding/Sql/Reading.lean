import SelectBinding.Sql.Fragments
import SelectBinding.Sql.Grammar.Statements
import SelectBinding.Sql.Wording

/-!
Statements as trees, and failures to read them as errors for a user.
-/

namespace SelectBinding.Sql

/-- The statements of a text. -/
def statementsOf (dialect : Dialect) (sql : String) : Except Failure (List StatementTree) := do
  let tokens ← Tokenizer.tokenize dialect sql
  match Grammar.statements { dialect } tokens with
  | .ok (found, _) => return found
  | .error stop => throw stop.failure

namespace Reading

/-- Where a place is that is given by its digits. -/
def spotOffset? (r : Reading) (spot : Wording.Spot) : Option Nat := do
  r.text.offset? ⟨← Decimal.word64? spot.line, ← Decimal.word64? spot.column⟩

/-- The error about something that was found. Without a place it was the end of the statement,
which is no token and stands after everything. -/
def complaintDiagnostic (r : Reading) (complaint : Wording.Complaint) : Diagnostic :=
  let token := if complaint.spot.isSome then complaint.found else ""
  let problem :=
    if !token.isEmpty && r.reserved.contains token then
      "\"" ++ token ++ "\" is a reserved keyword"
    else "Syntax Error near \"" ++ token ++ "\""
  let hint :=
    if complaint.wanted.startsWith "identifier" then ": identifier was expected" else ""
  { kind := .grammar, message := problem ++ hint, token,
    position :=
      match complaint.spot with
      | some spot => r.spotOffset? spot
      | none => some r.text.length }

/-- The error that a wording is. One that complains about nothing is shown as it is; without a
place, or with one that does not exist, it is about the end of the statement. -/
def wordingDiagnostic (r : Reading) (wording : String) : Diagnostic :=
  match Wording.complaint? wording with
  | some complaint => r.complaintDiagnostic complaint
  | none =>
    { kind := .grammar, message := "Syntax Error: " ++ Wording.withoutPlace wording,
      position := ((Wording.firstSpot? wording).bind r.spotOffset?).or (some r.text.length) }

/-- The error for a user that a failure to read a statement is. -/
def diagnostic (r : Reading) : Failure → Diagnostic
  | .tooDeep =>
    { kind := .grammar, message := "Statement is nested too deeply",
      position := some r.text.length }
  | failure => r.wordingDiagnostic failure.wording

/-- The first word of a text. -/
def firstWord (sql : String) : String :=
  String.ofList ((sql.toList.dropWhile Text.isBlank).takeWhile fun c => !Text.isBlank c)

/-- The only statement of a text, which has to be a query. -/
def onlyQuery (r : Reading) (sql : String) : List StatementTree → Except Diagnostic QueryTree
  | [] => .error { kind := .input, message := "No query specified" }
  | [.query q] => .ok q
  | [_] =>
    let word := firstWord sql
    refusal "Only SELECT statements are supported" word (r.text.keywordOffset? word 0)
  | _ => refusal "Only one statement is supported" ";" (r.text.tokenOffset? (.sign ";") 0)

end Reading

end SelectBinding.Sql
