import SelectBinding.Sql.Grammar.Interval
import SelectBinding.Sql.Grammar.Sorting

/-!
Calls: their arguments, and what may be written inside and after the parentheses.
-/

namespace SelectBinding.Sql.Grammar

open Sql.Parser

/-- A term, or an asterisk with its place and the name before it. -/
inductive Starred where
  | term (term : Term)
  | all (place : Location)
  | allOf (name : List Ident)

/-- One more part of a name, unless an asterisk comes next or the name ends. -/
def partBeforeAsterisk (parts : List Ident) : Parser (Option (List Ident)) := do
  if (← peekSign ".") && (← peekAt 1).token != .sign "*" then
    let _ ← next
    let t ← next
    match t.token with
    | .word value quote => return some (wordIdent value quote t.place :: parts)
    | .string .plain value => return some (stringIdent '\'' value :: parts)
    | _ => expected "an identifier or a '*' after '.'" t
  else return none

/-- The name before an asterisk and the asterisk, after the first part of the name; `none` when
the name has no asterisk. -/
def nameBeforeAsterisk (first : Ident) : Parser (Option Starred) := do
  let parts ← repeatedly partBeforeAsterisk [first]
  if ← sign "." then
    let _ ← next
    return some (.allOf parts.reverse)
  else return none

/-- An asterisk with the name before it. -/
def asterisk : Parser (Option Starred) := do
  let t ← next
  match t.token with
  | .sign "*" => return some (.all t.place)
  | .word value quote => nameBeforeAsterisk (wordIdent value quote t.place)
  | .string .plain value => nameBeforeAsterisk (stringIdent '\'' value)
  | _ => return none

/-- A term, or an asterisk with the name before it. -/
def starred (inner : Inner) : Parser Starred := do
  match ← lookFor asterisk with
  | some found => return found
  | none => return .term (← inner.term)

/-- An argument without a name. -/
def plainArgument (inner : Inner) : Parser Argument := do
  match ← starred inner with
  | .term t => return .term t
  | .all _ => return .wildcard
  | .allOf name => return .qualifiedWildcard name

/-- What stands between the name of an argument and its value. -/
def argumentSign : Parser String := do
  if ← keyword "VALUE" then return "VALUE"
  else if ← sign "=>" then return "=>"
  else if ← onlyIn [.ansi] (sign ":=") then return ":="
  else if ← onlyIn [.postgres] (sign ":") then return ":"
  else expected "argument operator" (← peek)

/-- The rest of an argument after its name. -/
def namedArgument (inner : Inner) (name : String) : Parser Argument := do
  let equals ← argumentSign
  let value ← plainArgument inner
  return .named (blanks [name, equals, value.text])

/-- An argument whose name may be any term. -/
def termArgument (inner : Inner) : Parser Argument := do
  match ← attempt (ahead (lookFor asterisk)) with
  | .ok none =>
    let term ← inner.term
    match ← maybe (namedArgument inner term.text) with
    | some found => return found
    | none => return .term term
  | _ =>
    match ← maybe (do namedArgument inner (← inner.termText)) with
    | some found => return found
    | none => plainArgument inner

/-- An argument. -/
def argument (inner : Inner) : Parser Argument := do
  if ← dialectIn [.postgres] then termArgument inner
  else
    match ← maybe (do namedArgument inner (← identifier).text) with
    | some found => return found
    | none => plainArgument inner

/-- The word before the arguments, perhaps none. -/
def argumentQuantifier : Parser (Option String) := do
  let t ← peek
  if ← keyword "ALL" then
    if ← keyword "DISTINCT" then failAt "Cannot specify both ALL and DISTINCT" t.place
    else return some "ALL"
  else if ← keyword "DISTINCT" then return some "DISTINCT"
  else return none

/-- What is done with arguments that are null, perhaps not said. -/
def nullTreatment : Parser (Option String) := do
  match ← oneOf ["RESPECT", "IGNORE"] with
  | some word =>
    expectKeyword "NULLS"
    return some (word ++ " NULLS")
  | none => return none

/-- The text that stands for what is left out of a text that is too long, perhaps none. -/
def overflowFiller (inner : Inner) : Parser String := do
  let t ← peek
  match t.token with
  | .word _ _ =>
    if t.token.isOneOf ["WITH", "WITHOUT"] then return ""
    else expected "either filler, WITH, or WITHOUT in LISTAGG" t
  | .string kind _ =>
    if [.plain, .escaped, .unicode, .national, .hex].contains kind then
      return " " ++ (← inner.termText)
    else expected "either filler, WITH, or WITHOUT in LISTAGG" t
  | _ => expected "either filler, WITH, or WITHOUT in LISTAGG" t

/-- What is done with a text that is too long. -/
def overflow (inner : Inner) : Parser String := do
  if ← keyword "ERROR" then return "ON OVERFLOW ERROR"
  else
    expectKeyword "TRUNCATE"
    let filler ← overflowFiller inner
    match ← oneOf ["WITH", "WITHOUT"] with
    | some word =>
      expectKeyword "COUNT"
      return "ON OVERFLOW TRUNCATE" ++ filler ++ " " ++ word ++ " COUNT"
    | none => expected "either WITH or WITHOUT in LISTAGG" (← peek)

/-- A clause of a list, if `opening` is there. -/
def clauseIf (opening : Parser Bool) (p : Parser String) : Parser (List String) := do
  if ← opening then return [← p] else return []

/-- What becomes of members without a value, perhaps not said. -/
def nullMembers : Parser (List String) := do
  if ← keywords ["ABSENT", "ON", "NULL"] then return ["ABSENT ON NULL"]
  else if ← keywords ["NULL", "ON", "NULL"] then return ["NULL ON NULL"]
  else return []

/-- The clauses after the arguments and after what is done with null. -/
def argumentClauses (inner : Inner) : Parser (List String) := do
  let sorting ← clauseIf (keywords ["ORDER", "BY"])
    (return "ORDER BY " ++ commas (← sortTexts inner))
  let limit ← clauseIf (keyword "LIMIT") (return "LIMIT " ++ (← inner.termText))
  let having ← clauseIf (onlyIn [.ansi] (keyword "HAVING")) (do
    let bound ← expectOneOf ["MIN", "MAX"]
    return "HAVING " ++ bound ++ " " ++ (← inner.termText))
  let separator ← clauseIf (onlyIn [.ansi, .mysql] (keyword "SEPARATOR"))
    (return "SEPARATOR " ++ (← literalText))
  let tooLong ← clauseIf (keywords ["ON", "OVERFLOW"]) (overflow inner)
  return sorting ++ limit ++ having ++ separator ++ tooLong ++ (← nullMembers)

/-- What the parentheses of a call hold. -/
structure ArgumentList where
  /-- The clauses before the arguments. -/
  first : List String := []
  quantifier : Option String := none
  args : List Argument := []
  nullTreatment : Option String := none
  more : List String := []

namespace ArgumentList

/-- The clauses beside the arguments. -/
def clauses (list : ArgumentList) : List String :=
  list.first ++ list.nullTreatment.toList ++ list.more

/-- The arguments as the part of a call they are. -/
def arguments (list : ArgumentList) : CallArguments :=
  .listed list.quantifier list.clauses

/-- The text with the parentheses. -/
def text (list : ArgumentList) : String :=
  list.arguments.text (list.args.map Argument.text)

end ArgumentList

/-- The arguments of a call after the opening parenthesis, up to the closing one. -/
def argumentList (inner : Inner) : Parser ArgumentList := do
  let first ← nullMembers
  if ← sign ")" then return { first }
  else
    let quantifier ← argumentQuantifier
    let args ← commaSeparated (argument inner)
    let nullTreatment ← if ← dialectIn [.ansi] then nullTreatment else pure none
    let more ← argumentClauses inner
    expectSign ")"
    return { first, quantifier, args, nullTreatment, more }

/-- A literal with the collation that may follow it. -/
def collatedLiteral : Parser Term := do
  let value := Term.literal (← literal)
  match ← afterKeyword "COLLATE" objectNameText with
  | some name => return .other (value.text ++ " COLLATE " ++ name)
  | none => return value

/-- An end of the rows that a window takes in. A length of time there is written with a string. -/
def windowBound (inner : Inner) : Parser String := do
  if ← keywords ["CURRENT", "ROW"] then return "CURRENT ROW"
  else
    let rows ←
      if ← keyword "UNBOUNDED" then pure "UNBOUNDED"
      else
        match (← peek).token with
        | .string .plain _ =>
          pure (← interval inner collatedLiteral).text
        | _ => inner.termText
    match ← oneOf ["PRECEDING", "FOLLOWING"] with
    | some word => return rows ++ " " ++ word
    | none => expected "PRECEDING or FOLLOWING" (← peek)

/-- The rows that a window takes in. -/
def windowFrame (inner : Inner) : Parser String := do
  match ← oneOf ["ROWS", "RANGE", "GROUPS"] with
  | none => expected "ROWS, RANGE, GROUPS" (← next)
  | some units =>
    if ← keyword "BETWEEN" then
      let first ← windowBound inner
      expectKeyword "AND"
      let last ← windowBound inner
      return units ++ " BETWEEN " ++ first ++ " AND " ++ last
    else return units ++ " " ++ (← windowBound inner)

/-- The name of the window that another window starts from, perhaps none. -/
def baseWindow : Parser (List String) := do
  if isFreeWord (← peek).token then return [(← identifier).text] else return []

/-- A window after its opening parenthesis, up to the closing one. -/
def windowRest (inner : Inner) : Parser String := do
  let base ← baseWindow
  let partition ← clauseIf (keywords ["PARTITION", "BY"])
    (return "PARTITION BY " ++ commas (← inner.termTexts))
  let sorting ← clauseIf (keywords ["ORDER", "BY"])
    (return "ORDER BY " ++ commas (← sortTexts inner))
  let frame ←
    if ← sign ")" then pure []
    else
      let frame ← windowFrame inner
      expectSign ")"
      pure [frame]
  return blanks (base ++ partition ++ sorting ++ frame)

/-- The window that a call is made over. -/
def window (inner : Inner) : Parser String := do
  if ← sign "(" then return inParentheses (← windowRest inner)
  else return (← identifier).text

/-- The condition on the rows that a call takes in, perhaps none. Each word of it is read on its
own. -/
def callFilter (inner : Inner) : Parser (Option String) := do
  if ← onlyIn [.postgres, .sqlite] (keyword "FILTER") then
    if ← sign "(" then
      if ← keyword "WHERE" then
        let condition ← inner.termText
        expectSign ")"
        return some condition
      else return none
    else return none
  else return none

/-- The sorting inside the group of a call, perhaps none. -/
def withinGroup (inner : Inner) : Parser (List String) := do
  if ← keywords ["WITHIN", "GROUP"] then
    parenthesized (do
      expectKeywords ["ORDER", "BY"]
      sortTexts inner)
  else return []

/-- A call after its name. -/
def callAfter (inner : Inner) (name : List Ident) (braced : Bool) : Parser Term := do
  expectSign "("
  let first ← argumentList inner
  let parametric ← onlyIn [.ansi] (sign "(")
  let list ← if parametric then argumentList inner else pure first
  let withinGroup ← withinGroup inner
  let filter ← callFilter inner
  let nullTreatment ← if list.nullTreatment.isSome then pure none else nullTreatment
  let overWindow ← afterKeyword "OVER" (window inner)
  let parameters := if parametric then some first.text else none
  return .call name
    { braced, parameters, arguments := list.arguments, withinGroup, filter, nullTreatment,
      overWindow }
    list.args

end SelectBinding.Sql.Grammar
