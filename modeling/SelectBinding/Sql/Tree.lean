import SelectBinding.Expr
import SelectBinding.Sql.Token

/-!
A statement as the grammar reads it.

What a query may be made of is kept in its parts. Everything else the grammar knows is kept as its
canonical text, with keywords in capital letters and single blanks, because all that is ever done
with it is to name it in a message.
-/

namespace SelectBinding.Sql

/-- A name with its quote and its place; a name that was written as a string stands nowhere. -/
structure Ident where
  value : String
  quote : Option Char := none
  place : Location := .nowhere
deriving Repr, DecidableEq

/-- An operator between two terms: one that queries have, or one they do not. -/
inductive Operator where
  | known (op : BinaryOp) (alone : op.standsAlone = true)
  | unknown (spelling : String)
deriving Repr, DecidableEq

/-- An operator on one term: one that queries have, or one they do not. -/
inductive UnaryOperator where
  | plus
  | minus
  | not
  | bitwiseNot
  | unknown (spelling : String)
  /-- An operator after its term. -/
  | trailing (spelling : String)
deriving Repr, DecidableEq

/-- A literal: one that queries have, or the text of one they do not. -/
inductive Literal where
  | null
  | boolean (value : Bool)
  | number (spelling : String) (long : Bool)
  | text (value : String)
  | other (spelling : String)
deriving Repr, DecidableEq

/-- What the parentheses of a call hold. -/
inductive CallArguments where
  /-- There are no parentheses. -/
  | absent
  /-- A query by its text. -/
  | query (text : String)
  /-- Arguments, perhaps after a word and before further clauses. -/
  | listed (quantifier : Option String) (clauses : List String)
deriving Repr, DecidableEq

/-- What a call has beside its name and its arguments, clause by clause. -/
structure CallShape where
  /-- Whether the call stands between braces. -/
  braced : Bool := false
  arguments : CallArguments := .listed none []
  parameters : Option String := none
  withinGroup : List String := []
  filter : Option String := none
  nullTreatment : Option String := none
  overWindow : Option String := none
deriving Repr, DecidableEq

mutual

/-- An expression. -/
inductive Term where
  | name (ident : Ident)
  | path (idents : List Ident)
  | literal (value : Literal)
  | nested (term : Term)
  | unary (op : UnaryOperator) (term : Term)
  | isNull (term : Term)
  | isNotNull (term : Term)
  | binary (left : Term) (op : Operator) (right : Term)
  | like (negated any : Bool) (left pattern : Term) (escape : Option String)
  | inList (left : Term) (items : List Term) (negated : Bool)
  | between (subject : Term) (negated : Bool) (low high : Term)
  | call (name : List Ident) (shape : CallShape) (args : List Argument)
  /-- A query in parentheses, by its text. -/
  | subquery (text : String)
  /-- A question about a query, by its text. -/
  | aboutSubquery (text : String)
  /-- Anything else, by its text. -/
  | other (text : String)

/-- An argument of a call. -/
inductive Argument where
  | term (term : Term)
  | wildcard
  | qualifiedWildcard (name : List Ident)
  /-- An argument with its name, by its text. -/
  | named (text : String)

end

/-- What may be written after an asterisk, each by its text. -/
structure WildcardOptions where
  ilike : Option String := none
  exclude : Option String := none
  except : Option String := none
  replace : Option String := none
  rename : Option String := none
deriving Repr, DecidableEq

/-- An item after `SELECT`. -/
inductive SelectItem where
  | term (term : Term)
  | aliased (term : Term) (aliasName : Ident)
  | qualifiedWildcard (name : List Ident) (options : WildcardOptions)
  | wildcard (place : Location) (options : WildcardOptions)

/-- An alias of a table with the names it gives to the columns, these by their texts. -/
structure TableAlias where
  name : Ident
  columns : List String := []
deriving Repr, DecidableEq

/-- What may be written after the name of a table, each by its text. -/
structure TableExtras where
  partitions : List String := []
  arguments : Option String := none
  withOrdinality : Bool := false
  hints : List String := []
deriving Repr, DecidableEq

/-- What a table item is made of. -/
inductive FromBody where
  | table (name : List Ident) (extras : TableExtras)
  /-- A query in parentheses, by its text. -/
  | derived (text : String)
  /-- Joined tables in parentheses, by their text. -/
  | nestedJoin (text : String)
  /-- Anything else, by its text before the alias and after it. -/
  | other (before after : String)
deriving Repr, DecidableEq

/-- A table item with its alias. -/
structure FromFactor where
  body : FromBody
  tableAlias : Option TableAlias := none
deriving Repr, DecidableEq

/-- An item after `FROM` with what is joined to it, the joins by their texts. -/
structure FromItem where
  relation : FromFactor
  joins : List String := []
deriving Repr, DecidableEq

/-- A sorting criterion. -/
structure SortTerm where
  term : Term
  ascending : Option Bool := none
  nullsFirst : Option Bool := none
  withFill : Option String := none

/-- The sorting of a query. -/
structure Sorting where
  terms : List SortTerm
  interpolate : Option String := none

/-- The grouping of a select. -/
inductive Grouping where
  | absent
  | all (modifiers : List String)
  | by (terms modifiers : List String)
deriving Repr, DecidableEq

/-- Whether rows are grouped: by all columns, or by one term at least. -/
def Grouping.isPresent : Grouping → Bool
  | .absent => false
  | .all _ => true
  | .by terms _ => !terms.isEmpty

/-- A select without the clauses of the query around it. -/
structure Select where
  /-- Where the word `SELECT` stands. -/
  place : Location
  distinct : Option String := none
  top : Option String := none
  items : List SelectItem
  into : Option String := none
  sources : List FromItem := []
  lateralViews : List String := []
  prewhere : Option String := none
  filter : Option Term := none
  grouping : Grouping := .absent
  clusterBy : List String := []
  distributeBy : List String := []
  sortBy : List String := []
  having : Option String := none
  windows : List String := []
  qualify : Option String := none
  windowsFirst : Bool := false
  connectBy : Option String := none

/-- What a query is about. -/
inductive QueryBody where
  | select (select : Select)
  /-- A query in parentheses, by its text. -/
  | nested (text : String)
  /-- Two queries and the operation between them, and all of it by its text. -/
  | operation (op text : String)
  /-- Anything else, by its text. -/
  | other (text : String)

/-- A query. -/
structure QueryTree where
  withTables : Option String := none
  body : QueryBody
  sorting : Option Sorting := none
  limit : Option String := none
  offset : Option String := none
  limitBy : List String := []
  settings : Option String := none
  fetch : Option String := none
  locks : List String := []
  forClause : Option String := none
  format : Option String := none

/-- A statement: a query, a question about a statement or a table, or something else. -/
inductive StatementTree where
  | query (query : QueryTree)
  | explanation
  | other

end SelectBinding.Sql
