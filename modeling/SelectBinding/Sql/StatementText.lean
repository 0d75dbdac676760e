import SelectBinding.Sql.Tokenizer

/-!
A statement as tokens with their offsets.

An offset counts characters from 0 over the whole statement; a place counts lines and columns from
1. Pieces of a statement that carry no place of their own are found by looking for a token.
-/

namespace SelectBinding.Sql

/-- The tokens of a statement, where its lines start and how long it is. -/
structure StatementText where
  /-- Tokens with their offsets. -/
  tokens : List (Token × Nat)
  /-- The offset of the first character of every line. -/
  lineStarts : List Nat
  length : Nat
deriving Repr

namespace StatementText

/-- The starts of the lines that follow, the next character having the offset `offset`. -/
def lineStartsFrom (offset : Nat) : List Char → List Nat
  | [] => []
  | c :: rest =>
    if c = '\n' then (offset + 1) :: lineStartsFrom (offset + 1) rest
    else lineStartsFrom (offset + 1) rest

/-- The offset of a column of a line. -/
def offsetIn? (lineStarts : List Nat) (place : Location) : Option Nat :=
  match place.line, place.column with
  | line + 1, column + 1 => lineStarts[line]?.map fun start => start + column
  | _, _ => none

/-- The tokens of a statement with their offsets; a statement not made of tokens has none. -/
def of (dialect : Dialect) (sql : String) : StatementText :=
  let cs := sql.toList
  let lineStarts := 0 :: lineStartsFrom 0 cs
  let tokens :=
    match Tokenizer.tokenize dialect sql with
    | .ok tokens => tokens
    | .error _ => []
  { tokens := tokens.filterMap fun t =>
      (offsetIn? lineStarts t.place).map fun offset => (t.token, offset)
    lineStarts
    length := cs.length }

/-- The offset of a place, if the statement has such a line. -/
def offset? (text : StatementText) (place : Location) : Option Nat :=
  offsetIn? text.lineStarts place

/-- The offset of the first token at `start` or after it that satisfies `p`. -/
def findFrom? (text : StatementText) (start : Nat) (p : Token → Bool) : Option Nat :=
  (text.tokens.find? fun entry => start ≤ entry.2 && p entry.1).map Prod.snd

/-- Whether a token is a bare word spelled `word` in any case. -/
def isBareWord (word : String) : Token → Bool
  | .word value none => Name.agree value word
  | _ => false

/-- The offset of the first bare word spelled `word`, in any case, at `start` or after it. -/
def keywordOffset? (text : StatementText) (word : String) (start : Nat) : Option Nat :=
  text.findFrom? start (isBareWord word)

/-- The offset of the first token equal to `token` at `start` or after it. -/
def tokenOffset? (text : StatementText) (token : Token) (start : Nat) : Option Nat :=
  text.findFrom? start (· == token)

/-- The offsets of the first tokens of the items of a list. Items are separated by commas outside
parentheses; the list ends before a closing parenthesis or a semicolon outside parentheses. -/
def itemOffsets (depth : Nat) (atStart : Bool) : List (Token × Nat) → List Nat
  | [] => []
  | (token, offset) :: rest =>
    let here := if atStart then [offset] else []
    match depth, token with
    | 0, .sign ")" => []
    | 0, .sign ";" => []
    | 0, .sign "," => itemOffsets 0 true rest
    | depth, .sign "(" => here ++ itemOffsets (depth + 1) false rest
    | depth + 1, .sign ")" => here ++ itemOffsets depth false rest
    | depth, _ => here ++ itemOffsets depth false rest

/-- The offsets of the items of the list that starts at `start`. -/
def listOffsets (text : StatementText) (start : Nat) : List Nat :=
  itemOffsets 0 true (text.tokens.filter fun entry => start ≤ entry.2)

end StatementText

end SelectBinding.Sql
