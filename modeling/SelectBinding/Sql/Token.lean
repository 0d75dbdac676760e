import SelectBinding.Name

/-!
The tokens of a statement and where they stand.

Lines and columns count from 1, a column being a character. The place of nothing is line 0.
-/

namespace SelectBinding.Sql

/-- A place in a statement. -/
structure Location where
  line : Nat
  column : Nat
deriving Repr, DecidableEq

namespace Location

/-- The place of the first character. -/
def start : Location := ⟨1, 1⟩

/-- The place of what stands nowhere. -/
def nowhere : Location := ⟨0, 0⟩

/-- The place after a character. -/
def advance (place : Location) (c : Char) : Location :=
  if c = '\n' then ⟨place.line + 1, 1⟩ else ⟨place.line, place.column + 1⟩

/-- The place after a run of characters. -/
def after (place : Location) (cs : List Char) : Location :=
  cs.foldl advance place

/-- The place as messages end with it. -/
def text (place : Location) : String :=
  if place.line = 0 then ""
  else " at Line: " ++ toString place.line ++ ", Column: " ++ toString place.column

end Location

/-- The spellings of a string. -/
inductive StringKind where
  /-- A text in single quotes. -/
  | plain
  /-- A text in double quotes, where these do not make a name. -/
  | inDouble
  /-- A text between two dollar signs with a tag between them, perhaps empty. -/
  | inDollars (tag : String)
  | national
  | escaped
  | unicode
  | hex
  | bytes
  | bytesInDouble
  | raw
  | rawInDouble
  /-- A raw text in three single quotes on either side. -/
  | rawInTriple
  | rawInTripleDouble
deriving Repr, DecidableEq

/-- A token. -/
inductive Token where
  /-- A word, bare or between quotes of which the opening one is given. -/
  | word (value : String) (quote : Option Char)
  /-- A number by its spelling, and whether it was marked as long. -/
  | number (spelling : String) (long : Bool)
  | string (kind : StringKind) (value : String)
  /-- A parameter with the sign before it. -/
  | parameter (spelling : String)
  /-- A punctuation mark or an operator. -/
  | sign (spelling : String)
  /-- An operator that a user may have defined. -/
  | userOperator (spelling : String)
  /-- A character that starts nothing. -/
  | stray (c : Char)
  /-- The end of the statement. -/
  | finish
deriving Repr, DecidableEq

/-- The quote that closes a name. -/
def closingMark (quote : Char) : Char :=
  if quote = '[' then ']' else quote

/-- A string as a statement spells it. -/
def StringKind.around (kind : StringKind) (value : String) : String :=
  match kind with
  | .plain => "'" ++ value ++ "'"
  | .inDouble => "\"" ++ value ++ "\""
  | .inDollars tag => "$" ++ tag ++ "$" ++ value ++ "$" ++ tag ++ "$"
  | .national => "N'" ++ value ++ "'"
  | .escaped => "E'" ++ value ++ "'"
  | .unicode => "U&'" ++ value ++ "'"
  | .hex => "X'" ++ value ++ "'"
  | .bytes => "B'" ++ value ++ "'"
  | .bytesInDouble => "B\"" ++ value ++ "\""
  | .raw => "R'" ++ value ++ "'"
  | .rawInDouble => "R\"" ++ value ++ "\""
  | .rawInTriple => "R'''" ++ value ++ "'''"
  | .rawInTripleDouble => "R\"\"\"" ++ value ++ "\"\"\""

namespace Token

/-- A token as messages show it. -/
def text : Token → String
  | .word value none => value
  | .word value (some quote) =>
    String.singleton quote ++ value ++ String.singleton (closingMark quote)
  | .number spelling long => spelling ++ if long then "L" else ""
  | .string kind value => kind.around value
  | .parameter spelling => spelling
  | .sign spelling => spelling
  | .userOperator spelling => spelling
  | .stray c => String.singleton c
  | .finish => "EOF"

/-- The capital letters a character becomes when words are compared with keywords; only characters
that become ASCII letters matter. -/
def capitals (c : Char) : List Char :=
  if c.isLower then [c.toUpper]
  else if c.toNat < 0x80 then [c]
  else
    match c with
    | 'ı' => ['I']
    | 'ſ' => ['S']
    | 'ß' => ['S', 'S']
    | 'ﬀ' => ['F', 'F']
    | 'ﬁ' => ['F', 'I']
    | 'ﬂ' => ['F', 'L']
    | 'ﬃ' => ['F', 'F', 'I']
    | 'ﬄ' => ['F', 'F', 'L']
    | 'ﬅ' => ['S', 'T']
    | 'ﬆ' => ['S', 'T']
    | c => [c]

/-- A word in the capital letters of keywords. -/
def capitalized (word : String) : String :=
  String.ofList (word.toList.flatMap capitals)

/-- The keyword a token may be: the capital letters of a bare word. -/
def keyword? : Token → Option String
  | .word value none => some (capitalized value)
  | _ => none

/-- Whether a token is the keyword `word`. -/
def isKeyword (word : String) (token : Token) : Bool :=
  token.keyword? == some word

/-- Whether a token is one of a list of keywords. -/
def isOneOf (words : List String) (token : Token) : Bool :=
  token.keyword?.any words.contains

end Token

/-- A token and the place where it starts. -/
structure Located where
  token : Token
  place : Location
deriving Repr, DecidableEq

end SelectBinding.Sql
