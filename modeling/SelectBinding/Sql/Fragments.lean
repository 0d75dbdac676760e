import SelectBinding.Build
import SelectBinding.Decimal.Numeral
import SelectBinding.Sql.StatementText
import SelectBinding.Sql.TreeText

/-!
From a statement as the grammar reads it to the parts that a query is built from.

Whatever a query cannot be made of is refused here, with the place of the word that names it. Names
know their place; words and literals are looked up among the tokens of the statement.
-/

namespace SelectBinding.Sql

/-- What has to be known of a statement beside its tree. -/
structure Reading where
  text : StatementText
  reserved : Reserved

namespace Reading

/-! ### Errors -/

/-- The error of kind `grammar` with a message and no place. -/
def refusal {α : Type} (message : String) (token : String) (position : Option Nat) :
    Except Diagnostic α :=
  .error { kind := .grammar, message, token, position }

/-- The error about something that queries do not have, named by its first keyword at `start` or
after it. -/
def unsupported {α : Type} (r : Reading) (construct word : String) (start : Nat) :
    Except Diagnostic α :=
  let position := r.text.keywordOffset? word start
  refusal (construct ++ " is not supported") (if position.isSome then word else "") position

/-! ### Names -/

/-- Where a name starts. -/
def offset? (r : Reading) (ident : Ident) : Option Nat :=
  r.text.offset? ident.place

/-- Where a name of several parts starts. -/
def start? (r : Reading) (idents : List Ident) : Option Nat :=
  idents.head?.bind r.offset?

/-- The value of a name. A bare name must not be a reserved word. -/
def nameValue (r : Reading) (ident : Ident) : Except Diagnostic String :=
  if ident.quote.isNone && r.reserved.contains ident.value then
    refusal ("\"" ++ ident.value ++ "\" is a reserved keyword: identifier was expected")
      ident.value (r.offset? ident)
  else .ok ident.value

/-- The values of the parts of a name. -/
def nameParts (r : Reading) (idents : List Ident) : Except Diagnostic (List String) :=
  idents.mapM r.nameValue

/-- The variable that a name is. -/
def variableOf (r : Reading) (idents : List Ident) : Except Diagnostic Variable := do
  return ⟨← r.nameParts idents, r.start? idents, none⟩

/-- The variable that an asterisk is, with the name before it. The place of a bare asterisk is
given. -/
def asterisk (r : Reading) (idents : List Ident) (place : Option Nat) :
    Except Diagnostic Variable := do
  return ⟨(← r.nameParts idents) ++ ["*"], (r.start? idents).or place, none⟩

/-! ### Expressions -/

/-- The value of a number: whole if it can be, else real. -/
def numberValue (spelling : String) : Except Diagnostic Constant :=
  match Decimal.int64? spelling with
  | some n => .ok (.integer n)
  | none =>
    match Decimal.real? spelling with
    | some x => .ok (.real x)
    | none => refusal ("Syntax Error near \"" ++ spelling ++ "\"") spelling none

/-- The value of a literal. -/
def constant : Literal → Except Diagnostic Constant
  | .null => .ok .null
  | .boolean value => .ok (.boolean value)
  | .text value => .ok (.text value)
  | .number spelling _ => numberValue spelling
  | .other spelling => refusal ("Literal \"" ++ spelling ++ "\" is not supported") "" none

/-- The error about an operator that queries do not have. -/
def unknownOperator {α : Type} (spelling : String) : Except Diagnostic α :=
  refusal ("Operator \"" ++ spelling ++ "\" is not supported") "" none

/-- An operator on one term. -/
def unaryOp : UnaryOperator → Except Diagnostic UnaryOp
  | .plus => .ok .plus
  | .minus => .ok .minus
  | .not => .ok .not
  | .bitwiseNot => .ok .bitwiseNot
  | .unknown spelling => unknownOperator spelling
  | .trailing spelling => unknownOperator spelling

/-- An operator between two terms. -/
def binaryOp : Operator → Except Diagnostic BinaryOp
  | .known op _ => .ok op
  | .unknown spelling => unknownOperator spelling

/-- A value between two bounds, or outside of them. -/
def range (negated : Bool) (subject low high : Expr) : Expr :=
  if negated then
    .operation (.operation subject .lt low) .or (.operation subject .gt high)
  else
    .operation (.operation subject .gtEq low) .and (.operation subject .ltEq high)

/-- The calls that take in all rows. -/
def aggregates : List String :=
  ["COUNT", "SUM", "AVG", "MIN", "MAX"]

/-- The kind of a call by its name. -/
def callKind (name : String) : CallKind :=
  if aggregates.any (Name.agree · name) then .aggregate else .function

/-- The error about a query inside the statement. -/
def subselect {α : Type} (r : Reading) (start : Nat) : Except Diagnostic α :=
  r.unsupported "Sub-select" "SELECT" start

/-- What a call has beside its name and plain arguments must not be there. -/
def checkShape (r : Reading) (shape : CallShape) (start : Nat) : Except Diagnostic Unit :=
  if shape.overWindow.isSome then r.unsupported "Window function" "OVER" start
  else if shape.filter.isSome then r.unsupported "FILTER" "FILTER" start
  else if shape.nullTreatment.isSome then r.unsupported "IGNORE/RESPECT NULLS" "NULLS" start
  else if !shape.withinGroup.isEmpty then r.unsupported "WITHIN GROUP" "WITHIN" start
  else .ok ()

/-- The arguments of a call must be plain. The call and its name are given by their texts. -/
def checkArguments (r : Reading) (shape : CallShape) (call name : String) (start : Nat) :
    Except Diagnostic Unit :=
  let refused : Except Diagnostic Unit :=
    refusal ("Arguments of \"" ++ call ++ "\" are not supported") name (some start)
  if shape.parameters.isSome then refused
  else
    match shape.arguments with
    | .absent => .ok ()
    | .query _ => r.subselect start
    | .listed (some _) _ =>
      refusal ("DISTINCT inside \"" ++ name ++ "\" is not supported") name (some start)
    | .listed none clauses => if clauses.isEmpty then .ok () else refused

/-- Where the arguments of a call start. -/
def argumentOffsets (r : Reading) (start : Nat) : List Nat :=
  match r.text.tokenOffset? (.sign "(") start with
  | some parenthesis => r.text.listOffsets (parenthesis + 1)
  | none => []

mutual

/-- The expression that a term stands for. The offset is that of the select around it. -/
def expr (r : Reading) (select : Nat) : Term → Except Diagnostic Expr
  | .name ident => return .var (← r.variableOf [ident])
  | .path idents => return .var (← r.variableOf idents)
  | .literal value => return .const (← constant value)
  | .nested term => r.expr select term
  | .unary op term => do
    let op ← unaryOp op
    return .unary op (← r.expr select term)
  | .isNull term => return .unary .isNull (← r.expr select term)
  | .isNotNull term => return .unary .isNotNull (← r.expr select term)
  | .binary left op right => do
    let op ← binaryOp op
    let left ← r.expr select left
    return .operation left op (← r.expr select right)
  | .like negated any left pattern escape =>
    if any then r.unsupported "LIKE ANY" "ANY" select
    else if escape.isSome then r.unsupported "LIKE ... ESCAPE" "ESCAPE" select
    else do
      let left ← r.expr select left
      return .operation left (if negated then .notLike else .like) (← r.expr select pattern)
  | .inList left items negated => do
    let left ← r.expr select left
    return .operation left (if negated then .notIn else .isIn) (.list (← r.exprs select items))
  | .between subject negated low high => do
    let subject ← r.expr select subject
    let low ← r.expr select low
    return range negated subject low (← r.expr select high)
  | .call name shape args => do
    let start := (r.start? name).getD select
    r.checkShape shape start
    let called := String.intercalate "." (← r.nameParts name)
    r.checkArguments shape (Term.call name shape args).text called start
    return .call (callKind called) called (← r.arguments select (r.argumentOffsets start) args)
  | .subquery _ => r.subselect (select + 1)
  | .aboutSubquery _ => r.subselect (select + 1)
  | .other text => refusal ("Expression \"" ++ text ++ "\" is not supported") "" none

/-- The expressions that terms stand for. -/
def exprs (r : Reading) (select : Nat) : List Term → Except Diagnostic (List Expr)
  | [] => return []
  | term :: rest => do
    let first ← r.expr select term
    return first :: (← r.exprs select rest)

/-- The expressions that arguments stand for, with the places of the arguments as far as they are
known. -/
def arguments (r : Reading) (select : Nat) (offsets : List Nat) :
    List Argument → Except Diagnostic (List Expr)
  | [] => return []
  | argument :: rest => do
    let first ←
      match argument with
      | .term term => r.expr select term
      | .wildcard => Expr.var <$> r.asterisk [] offsets.head?
      | .qualifiedWildcard name => Expr.var <$> r.asterisk name offsets.head?
      | .named text =>
        refusal ("Named argument \"" ++ text ++ "\" is not supported") "" offsets.head?
    return first :: (← r.arguments select offsets.tail rest)

end

/-! ### Columns -/

/-- Nothing may be written after an asterisk. -/
def checkWildcard (r : Reading) (options : WildcardOptions) (start : Nat) :
    Except Diagnostic Unit :=
  let refused (word : String) : Except Diagnostic Unit :=
    r.unsupported ("\"*\" with " ++ word) word start
  if options.ilike.isSome then refused "ILIKE"
  else if options.exclude.isSome then refused "EXCLUDE"
  else if options.except.isSome then refused "EXCEPT"
  else if options.replace.isSome then refused "REPLACE"
  else if options.rename.isSome then refused "RENAME"
  else .ok ()

/-- The column that an item stands for. -/
def column (r : Reading) (select : Nat) : SelectItem → Except Diagnostic Expr
  | .term t => r.expr select t
  | .aliased t aliasName => do
    let value ← r.expr select t
    return .aliased value (← r.nameValue aliasName)
  | .qualifiedWildcard name options => do
    r.checkWildcard options ((r.start? name).getD select)
    return .var (← r.asterisk name none)
  | .wildcard place options => do
    let position := r.text.offset? place
    r.checkWildcard options (position.getD select)
    return .var (← r.asterisk [] position)

/-! ### Tables -/

/-- A table that queries do not have. -/
def unsupportedTable {α : Type} (factor : FromFactor) (token : String) (position : Option Nat) :
    Except Diagnostic α :=
  refusal ("Table expression \"" ++ factor.text ++ "\" is not supported") token position

/-- A table under the alias that it is given. -/
def aliasedTable (r : Reading) (table : Variable) : Option TableAlias → Except Diagnostic Expr
  | none => return .var table
  | some given =>
    if given.columns.isEmpty then
      return .underName (.var table) (.var (← r.variableOf [given.name])) false
    else
      refusal ("Column list of alias \"" ++ given.name.value ++ "\" is not supported")
        given.name.value (r.offset? given.name)

/-- The table that an item stands for. -/
def table (r : Reading) (select : Nat) (item : FromItem) : Except Diagnostic Expr :=
  if !item.joins.isEmpty then r.unsupported "JOIN" "JOIN" 0
  else
    match item.relation.body with
    | .table name extras => do
      if extras = {} then
        r.aliasedTable (← r.variableOf name) item.relation.tableAlias
      else unsupportedTable item.relation (pathText name) (r.start? name)
    | .derived _ => r.subselect (select + 1)
    | _ => unsupportedTable item.relation "" none

/-! ### Sorting -/

/-- The sorting criterion that a name is. -/
def sortName (r : Reading) (idents : List Ident) (ascending : Bool) :
    Except Diagnostic SortItem := do
  return { parts := ← r.nameParts idents, ascending, position := r.start? idents }

/-- The sorting criterion that a number is. -/
def sortNumber (spelling : String) (ascending : Bool) (position : Option Nat) :
    Except Diagnostic SortItem :=
  match Decimal.word64? spelling with
  | some n => .ok { SortItem.numbered n ascending with position }
  | none => refusal ("Syntax Error near \"" ++ spelling ++ "\"") spelling position

/-- A sorting criterion with the place where it starts; `order` is where the sorting starts. -/
def sortItem (r : Reading) (order : Nat) (item : SortTerm) (position : Option Nat) :
    Except Diagnostic SortItem :=
  let start := position.getD order
  let ascending := item.ascending.getD true
  match item.nullsFirst with
  | some true => r.unsupported "NULLS FIRST" "NULLS" start
  | some false => r.unsupported "NULLS LAST" "NULLS" start
  | none =>
    if item.withFill.isSome then r.unsupported "WITH FILL" "WITH" start
    else
      match item.term with
      | .literal (.number spelling _) => sortNumber spelling ascending position
      | .name ident => r.sortName [ident] ascending
      | .path idents => r.sortName idents ascending
      | term =>
        refusal ("Sorting by expression \"" ++ term.text ++ "\" is not supported") "" position

/-- Sorting criteria with the places where they start, as far as these are known. -/
def sortItems (r : Reading) (order : Nat) (offsets : List Nat) :
    List SortTerm → Except Diagnostic (List SortItem)
  | [] => return []
  | item :: rest => do
    let first ← r.sortItem order item offsets.head?
    return first :: (← r.sortItems order offsets.tail rest)

/-- The sorting of a query. -/
def ordering (r : Reading) (select : Nat) : Option Sorting → Except Diagnostic (List SortItem)
  | none => return []
  | some sorting => do
    let order := (r.text.keywordOffset? "ORDER" select).getD select
    if sorting.interpolate.isSome then r.unsupported "INTERPOLATE" "INTERPOLATE" order
    else
      let offsets :=
        match r.text.keywordOffset? "BY" order with
        | some by_ => r.text.listOffsets (by_ + 1)
        | none => []
      r.sortItems order offsets sorting.terms

/-! ### Queries -/

/-- The clauses of a select that queries do not have must not be there. -/
def checkSelect (r : Reading) (s : Select) : Except Diagnostic Unit :=
  let refused (construct word : String) : Except Diagnostic Unit := r.unsupported construct word 0
  if s.distinct.isSome then refused "DISTINCT" "DISTINCT"
  else if s.top.isSome then refused "TOP" "TOP"
  else if s.into.isSome then refused "SELECT INTO" "INTO"
  else if s.grouping.isPresent then refused "GROUP BY" "GROUP"
  else if s.having.isSome then refused "HAVING" "HAVING"
  else if s.qualify.isSome then refused "QUALIFY" "QUALIFY"
  else .ok ()

/-- The clauses around a select that queries do not have must not be there. -/
def checkQuery (r : Reading) (q : QueryTree) : Except Diagnostic Unit :=
  let refused (word : String) : Except Diagnostic Unit := r.unsupported word word 0
  if q.withTables.isSome then refused "WITH"
  else if q.limit.isSome then refused "LIMIT"
  else if q.offset.isSome then refused "OFFSET"
  else if q.fetch.isSome then refused "FETCH"
  else .ok ()

/-- The only select that a query is about. -/
def onlySelect (r : Reading) : QueryBody → Except Diagnostic Select
  | .select s => .ok s
  | .operation word _ => r.unsupported word word 0
  | .nested _ => r.subselect 0
  | .other _ => refusal "Only SELECT statements are supported" "" (some 0)

/-- The parts that a query is built from. -/
def fragments (r : Reading) (q : QueryTree) : Except Diagnostic Fragments := do
  r.checkQuery q
  let s ← r.onlySelect q.body
  let start := (r.text.offset? s.place).getD 0
  r.checkSelect s
  let columns ← s.items.mapM (r.column start)
  let tables ← s.sources.mapM (r.table start)
  let filter ← s.filter.mapM (r.expr start)
  let ordering ← r.ordering start q.sorting
  let clauses : Option Clauses :=
    if filter.isNone && ordering.isEmpty then none else some { filter, ordering }
  let tables := if tables.isEmpty then none else some tables
  return { columns := some columns, tables, clauses }

end Reading

end SelectBinding.Sql
