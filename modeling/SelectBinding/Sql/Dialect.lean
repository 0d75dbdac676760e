import SelectBinding.Text.CharClass

/-!
The dialects of the statement language, as far as they spell words and operators differently.
-/

namespace SelectBinding.Sql

/-- A dialect of the statement language. -/
inductive Dialect where
  | ansi
  | postgres
  | sqlite
  | mysql
deriving Repr, DecidableEq

namespace Dialect

/-- Whether a character lies between two code points. -/
def between (low high : Nat) (c : Char) : Bool :=
  low ≤ c.toNat && c.toNat ≤ high

/-- Whether a bare word may start with `c`. -/
def startsWord (dialect : Dialect) (c : Char) : Bool :=
  match dialect with
  | .ansi => Text.isLetter c || c == '_' || c == '#' || c == '@'
  | .postgres => Text.isLetter c || c == '_'
  | .sqlite => c.isAlpha || c == '_' || between 0x7f 0xffff c
  | .mysql => Text.isLetter c || c == '_' || c == '$' || c == '@' || between 0x80 0xffff c

/-- Whether a bare word may go on with `c`. -/
def continuesWord (dialect : Dialect) (c : Char) : Bool :=
  match dialect with
  | .ansi => dialect.startsWord c || c.isDigit || c == '$'
  | .postgres => dialect.startsWord c || c.isDigit || c == '$'
  | .sqlite | .mysql => dialect.startsWord c || c.isDigit

/-- The character that closes a name opened by `c`, when `c` opens one. -/
def closingQuote? (dialect : Dialect) (c : Char) : Option Char :=
  match dialect with
  | .ansi => if c = '"' ∨ c = '\x60' then some c else none
  | .postgres => if c = '"' then some c else none
  | .sqlite => if c = '"' ∨ c = '\x60' then some c else if c = '[' then some ']' else none
  | .mysql => if c = '\x60' then some c else none

/-- Whether a backslash in a text takes the character after it along. -/
def escapesInText (dialect : Dialect) : Bool :=
  dialect == .mysql

/-- Whether a word may start with digits. -/
def wordsStartWithDigits (dialect : Dialect) : Bool :=
  dialect == .mysql

/-- Whether `B` before a quote makes a string of bits or bytes. -/
def hasByteStrings (dialect : Dialect) : Bool :=
  dialect != .sqlite

/-- Whether `R` before a quote makes a raw string. -/
def hasRawStrings (dialect : Dialect) : Bool :=
  dialect == .ansi

/-- Whether `U&` before a quote makes a string with code points in it. -/
def hasUnicodeStrings (dialect : Dialect) : Bool :=
  dialect == .ansi || dialect == .postgres

/-- Whether `c` may follow the first character of an operator that a user defined. -/
def continuesOperator (dialect : Dialect) (c : Char) : Bool :=
  dialect == .postgres &&
    ['+', '-', '*', '/', '<', '>', '=', '~', '!', '@', '#', '%', '^', '&', '|', '\x60',
      '?'].contains c

/-- Whether one of a list of dialects is meant. -/
def isOneOf (dialect : Dialect) (dialects : List Dialect) : Bool :=
  dialects.contains dialect

end Dialect

end SelectBinding.Sql
