import SelectBinding.Name

/-!
Words that may not stand as bare names, and the quoting of names that need it.

A dictionary holds the words that the statement language always reserves together with words a
user adds. A name is written bare only when it is a plain word that neither the dictionary nor the
grammar takes for itself.
-/

namespace SelectBinding

/-- A dictionary of reserved words, spelled in upper case. -/
structure Reserved where
  words : List String
deriving Repr

namespace Reserved

/-- The words reserved under every configuration. -/
def builtin : Reserved :=
  ⟨["ALL", "ALTER", "AND", "AS", "ASC", "BETWEEN", "BY", "CASE", "CHECK", "CONSTRAINT", "CREATE",
    "CROSS", "DEFAULT", "DELETE", "DESC", "DISTINCT", "DROP", "ELSE", "END", "EXCEPT", "EXISTS",
    "FALSE", "FOREIGN", "FROM", "FULL", "GROUP", "HAVING", "IN", "INDEX", "INNER", "INSERT",
    "INTERSECT", "INTO", "IS", "JOIN", "KEY", "LEFT", "LIKE", "LIMIT", "NOT", "NULL", "OFFSET",
    "ON", "OR", "ORDER", "OUTER", "PRIMARY", "REFERENCES", "RIGHT", "SELECT", "SET", "TABLE",
    "THEN", "TRUE", "UNION", "UNIQUE", "UPDATE", "VALUES", "VIEW", "WHEN", "WHERE", "WITH", "XOR"]⟩

/-- Words that would be read as the next clause after a table, so no bare table alias. -/
def afterTable : List String :=
  ["WITH", "EXPLAIN", "ANALYZE", "SELECT", "WHERE", "GROUP", "SORT", "HAVING", "ORDER", "PIVOT",
   "UNPIVOT", "TOP", "LATERAL", "VIEW", "LIMIT", "OFFSET", "FETCH", "UNION", "EXCEPT", "INTERSECT",
   "ON", "JOIN", "INNER", "CROSS", "FULL", "LEFT", "RIGHT", "NATURAL", "USING", "CLUSTER",
   "DISTRIBUTE", "GLOBAL", "ANTI", "SEMI", "OUTER", "SET", "QUALIFY", "WINDOW", "END", "FOR",
   "PARTITION", "PREWHERE", "SETTINGS", "FORMAT", "START", "CONNECT", "MATCH_RECOGNIZE"]

/-- Words that would be read as the next clause after a column, so no bare column alias. -/
def afterColumn : List String :=
  ["WITH", "EXPLAIN", "ANALYZE", "SELECT", "WHERE", "GROUP", "SORT", "HAVING", "ORDER", "TOP",
   "LATERAL", "VIEW", "LIMIT", "OFFSET", "FETCH", "UNION", "EXCEPT", "INTERSECT", "CLUSTER",
   "DISTRIBUTE", "RETURNING", "FROM", "INTO", "END"]

/-- Words that never fall back to being a plain name inside an expression. -/
def insideExpression : List String :=
  ["EXISTS", "INTERVAL", "STRUCT", "TRIM"]

/-- Whether the grammar refuses `word` as a bare name in some position. -/
def byGrammar (word : String) : Bool :=
  let upper := Name.upper word
  afterTable.contains upper || afterColumn.contains upper || insideExpression.contains upper

/-- The dictionary with more words. -/
def withExtra (reserved : Reserved) (more : List String) : Reserved :=
  ⟨reserved.words ++ more.map Name.upper⟩

/-- Whether `word` is in the dictionary, in any case. -/
def contains (reserved : Reserved) (word : String) : Bool :=
  reserved.words.contains (Name.upper word)

/-- An ASCII letter or an underscore. -/
def startsPlainWord (c : Char) : Bool :=
  c.isAlpha || c == '_'

/-- An ASCII letter, an ASCII digit or an underscore. -/
def continuesPlainWord (c : Char) : Bool :=
  c.isAlphanum || c == '_'

/-- Whether a text is a plain word, one that every tokenizer reads as a single word. -/
def isPlainWord : List Char → Bool
  | [] => false
  | c :: rest => startsPlainWord c && rest.all continuesPlainWord

/-- Whether `name` has to be quoted to be read back as a name. -/
def needsQuoting (reserved : Reserved) (name : String) : Bool :=
  !isPlainWord name.toList || reserved.contains name || byGrammar name

/-- A text in double quotes, each double quote inside it written twice. -/
def inQuotes (name : String) : String :=
  "\"" ++ String.ofList (name.toList.flatMap fun c => if c = '"' then ['"', '"'] else [c]) ++ "\""

/-- A name as it is written in a statement. -/
def quote (reserved : Reserved) (name : String) : String :=
  if reserved.needsQuoting name then inQuotes name else name

end Reserved

end SelectBinding
