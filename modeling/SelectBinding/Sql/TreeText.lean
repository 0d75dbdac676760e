import SelectBinding.Sql.Tree

/-!
The canonical text of the parts of a statement: keywords in capital letters, single blanks around
operators and after commas, and names with the quotes they were written with.
-/

namespace SelectBinding.Sql

/-- Texts separated by commas. -/
def commas (texts : List String) : String :=
  String.intercalate ", " texts

/-- Texts separated by blanks. -/
def blanks (texts : List String) : String :=
  String.intercalate " " texts

/-- A text after a blank and some words, when there is one. -/
def clause (words : String) : Option String → String
  | none => ""
  | some text => " " ++ words ++ text

/-- What the character before says about a quote. -/
inductive QuoteState where
  | free
  | afterBackslash
  /-- A quote was written twice, and stands for the next one as well. -/
  | doubled
deriving Repr, DecidableEq

/-- The characters of a quoted text. A quote is doubled, unless a backslash comes before it; two
quotes together count as doubled already. -/
def quotedFrom (quote : Char) (state : QuoteState) : List Char → List Char
  | [] => []
  | c :: rest =>
    if c = quote then
      match state with
      | .free => c :: c :: quotedFrom quote .doubled rest
      | .afterBackslash => c :: quotedFrom quote .afterBackslash rest
      | .doubled => quotedFrom quote .free rest
    else c :: quotedFrom quote (if c = '\\' then .afterBackslash else .free) rest

/-- A text between quotes. -/
def quoted (quote : Char) (text : String) : String :=
  String.ofList (quote :: quotedFrom quote .free text.toList ++ [quote])

namespace Ident

/-- A name as it was written. -/
def text (ident : Ident) : String :=
  match ident.quote with
  | none => ident.value
  | some '[' => "[" ++ ident.value ++ "]"
  | some quote => quoted quote ident.value

end Ident

/-- A name of several parts as it was written. -/
def pathText (idents : List Ident) : String :=
  String.intercalate "." (idents.map Ident.text)

/-- The operator as it is written. -/
def Operator.text : Operator → String
  | .known op _ => op.symbol
  | .unknown spelling => spelling

/-- The operator as it is written. -/
def UnaryOperator.text : UnaryOperator → String
  | .plus => "+"
  | .minus => "-"
  | .not => "NOT"
  | .bitwiseNot => "~"
  | .unknown spelling => spelling
  | .trailing spelling => spelling

/-- A literal as it is written. -/
def Literal.spelling : Literal → String
  | .null => "NULL"
  | .boolean value => if value then "true" else "false"
  | .number spelling long => spelling ++ if long then "L" else ""
  | .text value => quoted '\'' value
  | .other spelling => spelling

/-- A character of an escaped string. -/
def escapedText (c : Char) : List Char :=
  if c = '\'' then ['\\', '\'']
  else if c = '\\' then ['\\', '\\']
  else if c = '\n' then ['\\', 'n']
  else if c = '\t' then ['\\', 't']
  else if c = '\r' then ['\\', 'r']
  else [c]

/-- A number in capital hexadecimal digits, at least so many of them. -/
def hexText (width n : Nat) : List Char :=
  let digits := (Nat.toDigits 16 n).map Char.toUpper
  List.replicate (width - digits.length) '0' ++ digits

/-- A character of a string with code points. -/
def unicodeText (c : Char) : List Char :=
  if c = '\'' then ['\'', '\'']
  else if c = '\\' then ['\\', '\\']
  else if c.toNat < 0x80 then [c]
  else if c.toNat ≤ 0xFFFF then '\\' :: hexText 4 c.toNat
  else '\\' :: '+' :: hexText 6 c.toNat

/-- A string literal as it is written. -/
def StringKind.literal (kind : StringKind) (value : String) : Literal :=
  match kind with
  | .plain => .text value
  | .inDouble => .other (quoted '"' value)
  | .escaped => .other ("E'" ++ String.ofList (value.toList.flatMap escapedText) ++ "'")
  | .unicode => .other ("U&'" ++ String.ofList (value.toList.flatMap unicodeText) ++ "'")
  | kind => .other (kind.around value)

/-- The arguments of a call with what is around them, the arguments given by their texts. -/
def CallArguments.text (arguments : CallArguments) (args : List String) : String :=
  match arguments with
  | .absent => ""
  | .query text => "(" ++ text ++ ")"
  | .listed quantifier clauses =>
    "(" ++ (match quantifier with
      | some word => word ++ " "
      | none => "") ++ commas args ++
      (if clauses.isEmpty then ""
        else (if args.isEmpty then "" else " ") ++ blanks clauses) ++ ")"

/-- The text of a call with the name and the arguments given by their texts. -/
def CallShape.text (shape : CallShape) (name : String) (args : List String) : String :=
  (if shape.braced then "\x7bfn " else "") ++ name ++ shape.parameters.getD "" ++
    shape.arguments.text args ++
    (if shape.withinGroup.isEmpty then ""
      else " WITHIN GROUP (ORDER BY " ++ commas shape.withinGroup ++ ")") ++
    (match shape.filter with
      | some filter => " FILTER (WHERE " ++ filter ++ ")"
      | none => "") ++
    clause "" shape.nullTreatment ++ clause "OVER " shape.overWindow ++
    (if shape.braced then "\x7d" else "")

mutual

/-- The text of an expression. -/
def Term.text : Term → String
  | .name ident => ident.text
  | .path idents => pathText idents
  | .literal value => value.spelling
  | .nested term => "(" ++ term.text ++ ")"
  | .unary .not term => "NOT " ++ term.text
  | .unary (.trailing spelling) term => term.text ++ spelling
  | .unary op term => op.text ++ term.text
  | .isNull term => term.text ++ " IS NULL"
  | .isNotNull term => term.text ++ " IS NOT NULL"
  | .binary left op right => left.text ++ " " ++ op.text ++ " " ++ right.text
  | .like negated any left pattern escape =>
    left.text ++ (if negated then " NOT LIKE " else " LIKE ") ++ (if any then "ANY " else "") ++
      pattern.text ++
      match escape with
      | some escape => " ESCAPE '" ++ escape ++ "'"
      | none => ""
  | .inList left items negated =>
    left.text ++ (if negated then " NOT IN (" else " IN (") ++ commas (Term.textsOf items) ++ ")"
  | .between subject negated low high =>
    subject.text ++ (if negated then " NOT BETWEEN " else " BETWEEN ") ++ low.text ++ " AND " ++
      high.text
  | .call name shape args => shape.text (pathText name) (Argument.textsOf args)
  | .subquery text => "(" ++ text ++ ")"
  | .aboutSubquery text => text
  | .other text => text

/-- The texts of expressions. -/
def Term.textsOf : List Term → List String
  | [] => []
  | term :: rest => term.text :: Term.textsOf rest

/-- The text of an argument. -/
def Argument.text : Argument → String
  | .term term => term.text
  | .wildcard => "*"
  | .qualifiedWildcard name => pathText name ++ ".*"
  | .named text => text

/-- The texts of arguments. -/
def Argument.textsOf : List Argument → List String
  | [] => []
  | argument :: rest => argument.text :: Argument.textsOf rest

end

/-- The text of what is written after an asterisk. -/
def WildcardOptions.text (options : WildcardOptions) : String :=
  clause "" options.ilike ++ clause "" options.exclude ++ clause "" options.except ++
    clause "" options.replace ++ clause "" options.rename

/-- The text of an item after `SELECT`. -/
def SelectItem.text : SelectItem → String
  | .term t => t.text
  | .aliased t aliasName => t.text ++ " AS " ++ aliasName.text
  | .qualifiedWildcard name options => pathText name ++ ".*" ++ options.text
  | .wildcard _ options => "*" ++ options.text

/-- The text of an alias of a table. -/
def TableAlias.text (a : TableAlias) : String :=
  a.name.text ++ if a.columns.isEmpty then "" else " (" ++ commas a.columns ++ ")"

/-- The text of a table item. -/
def FromFactor.text (factor : FromFactor) : String :=
  let naming := clause "AS " (factor.tableAlias.map TableAlias.text)
  match factor.body with
  | .table name extras =>
    pathText name ++
      (if extras.partitions.isEmpty then ""
        else "PARTITION (" ++ commas extras.partitions ++ ")") ++
      (match extras.arguments with
        | some arguments => "(" ++ arguments ++ ")"
        | none => "") ++
      (if extras.withOrdinality then " WITH ORDINALITY" else "") ++ naming ++
      if extras.hints.isEmpty then "" else " WITH (" ++ commas extras.hints ++ ")"
  | .derived text => text ++ naming
  | .nestedJoin text => text ++ naming
  | .other before after => before ++ naming ++ after

/-- The text of an item after `FROM`. -/
def FromItem.text (item : FromItem) : String :=
  item.relation.text ++ String.join item.joins

/-- The text of a sorting criterion. -/
def SortTerm.text (s : SortTerm) : String :=
  s.term.text ++
    (match s.ascending with
      | some true => " ASC"
      | some false => " DESC"
      | none => "") ++
    (match s.nullsFirst with
      | some true => " NULLS FIRST"
      | some false => " NULLS LAST"
      | none => "") ++
    clause "" s.withFill

/-- The text of a sorting. -/
def Sorting.text (s : Sorting) : String :=
  "ORDER BY " ++ commas (s.terms.map SortTerm.text) ++ clause "" s.interpolate

/-- Modifiers of a grouping. -/
def modifiersText (modifiers : List String) : String :=
  if modifiers.isEmpty then "" else " " ++ blanks modifiers

/-- The text of a grouping. -/
def Grouping.text : Grouping → String
  | .absent => ""
  | .all modifiers => " GROUP BY ALL" ++ modifiersText modifiers
  | .by terms modifiers => " GROUP BY " ++ commas terms ++ modifiersText modifiers

/-- Texts after some words, when there are any. -/
def listClause (words : String) (texts : List String) : String :=
  if texts.isEmpty then "" else " " ++ words ++ commas texts

/-- The text of a select. -/
def Select.text (s : Select) : String :=
  let windows := listClause "WINDOW " s.windows
  let qualify := clause "QUALIFY " s.qualify
  "SELECT" ++ clause "" s.distinct ++ clause "" s.top ++ " " ++
    commas (s.items.map SelectItem.text) ++ clause "" s.into ++
    listClause "FROM " (s.sources.map FromItem.text) ++ String.join s.lateralViews ++
    clause "PREWHERE " s.prewhere ++ clause "WHERE " (s.filter.map Term.text) ++
    s.grouping.text ++ listClause "CLUSTER BY " s.clusterBy ++
    listClause "DISTRIBUTE BY " s.distributeBy ++ listClause "SORT BY " s.sortBy ++
    clause "HAVING " s.having ++
    (if s.windowsFirst then windows ++ qualify else qualify ++ windows) ++
    clause "" s.connectBy

/-- The text of what a query is about. -/
def QueryBody.text : QueryBody → String
  | .select s => s.text
  | .nested text => "(" ++ text ++ ")"
  | .operation _ text => text
  | .other text => text

/-- The text of a query. -/
def QueryTree.text (q : QueryTree) : String :=
  (match q.withTables with
    | some tables => tables ++ " "
    | none => "") ++
    q.body.text ++ clause "" (q.sorting.map Sorting.text) ++ clause "LIMIT " q.limit ++
    clause "" q.offset ++ listClause "BY " q.limitBy ++ clause "SETTINGS " q.settings ++
    clause "" q.fetch ++ (if q.locks.isEmpty then "" else " " ++ blanks q.locks) ++
    clause "" q.forClause ++ clause "" q.format

end SelectBinding.Sql
