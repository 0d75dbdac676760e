import SelectBinding.Sql.Dialect
import SelectBinding.Sql.Failure

/-!
From the characters of a statement to its tokens.

Every scanner takes the characters that are left and returns what it found with the characters
after it, or a message with the characters after the place it is about. Blanks and comments give no
token.
-/

namespace SelectBinding.Sql.Tokenizer

/-- A message and the characters after the place it is about. -/
structure Fault where
  message : String
  rest : List Char

/-- What a scanner found and the characters after it. -/
abbrev Scan (α : Type) := Except Fault (α × List Char)

/-- The words of a scanner that found something. -/
def found {α : Type} (a : α) (rest : List Char) : Scan α :=
  .ok (a, rest)

/-! ### Strings and quoted names -/

/-- The character that a letter stands for after a backslash. -/
def afterBackslash (c : Char) : Char :=
  if c = '0' then Char.ofNat 0
  else if c = 'a' then Char.ofNat 7
  else if c = 'b' then Char.ofNat 8
  else if c = 'f' then Char.ofNat 12
  else if c = 'n' then '\n'
  else if c = 'r' then '\r'
  else if c = 't' then '\t'
  else if c = 'Z' then Char.ofNat 26
  else c

/-- The characters up to the closing quote, which counts as a character when it is doubled, and the
characters after it. -/
def upToQuote (quote : Char) (backslash : Bool) : List Char → Option (List Char × List Char)
  | [] => none
  | c :: rest =>
    if c = quote then
      match rest with
      | d :: rest' =>
        if d = quote then (upToQuote quote backslash rest').map fun (s, r) => (c :: s, r)
        else some ([], rest)
      | [] => some ([], [])
    else if backslash && c == '\\' then
      match rest with
      | d :: rest' =>
        (upToQuote quote backslash rest').map fun (s, r) => (afterBackslash d :: s, r)
      | [] => none
    else (upToQuote quote backslash rest).map fun (s, r) => (c :: s, r)

/-- The rest of a string whose opening quote is the next character. -/
def string (kind : StringKind) (quote : Char) (backslash : Bool) (cs : List Char) : Scan Token :=
  match upToQuote quote backslash cs.tail with
  | some (value, rest) => found (.string kind (String.ofList value)) rest
  | none => .error ⟨"Unterminated string literal", cs⟩

/-- The characters up to three quotes in a row, and the characters after these. -/
def upToTripleQuote (quote : Char) : List Char → Option (List Char × List Char)
  | [] => none
  | c :: rest =>
    if [quote, quote, quote].isPrefixOf (c :: rest) then some ([], rest.drop 2)
    else (upToTripleQuote quote rest).map fun (s, r) => (c :: s, r)

/-- The rest of a raw string whose opening quotes are next: one quote, three of them, or two which
are an empty string. -/
def rawString (single triple : StringKind) (quote : Char) (cs : List Char) : Scan Token :=
  let opening := (cs.take 3).takeWhile (· == quote)
  let inside := cs.drop opening.length
  let (kind, value) :=
    match opening.length with
    | 1 => (single, upToQuote quote false inside)
    | 2 => (single, some ([], inside))
    | _ => (triple, upToTripleQuote quote inside)
  match value with
  | some (value, rest) => found (.string kind (String.ofList value)) rest
  | none => .error ⟨"Unterminated string literal", inside⟩

/-- A quoted name whose opening quote is the next character. -/
def quotedWord (opening closing : Char) (cs : List Char) : Scan Token :=
  match upToQuote closing false cs.tail with
  | some (value, rest) => found (.word (String.ofList value) (some opening)) rest
  | none =>
    .error ⟨"Expected close delimiter '" ++ String.singleton closing ++ "' before EOF.", cs⟩

/-! ### Strings with code points -/

/-- The value of a hexadecimal digit. -/
def hexValue? (c : Char) : Option Nat :=
  if '0' ≤ c ∧ c ≤ '9' then some (c.toNat - '0'.toNat)
  else if 'a' ≤ c ∧ c ≤ 'f' then some (c.toNat - 'a'.toNat + 10)
  else if 'A' ≤ c ∧ c ≤ 'F' then some (c.toNat - 'A'.toNat + 10)
  else none

/-- The value of an octal digit. -/
def octalValue? (c : Char) : Option Nat :=
  if '0' ≤ c ∧ c ≤ '7' then some (c.toNat - '0'.toNat) else none

/-- The character with a code point, when there is one. -/
def charOf? (code : Nat) : Option Char :=
  if code < 0xD800 ∨ (0xDFFF < code ∧ code < 0x110000) then some (Char.ofNat code) else none

/-- The value of a run of hexadecimal digits, which may have a plus sign before it. -/
def hexRun? (cs : List Char) : Option Nat :=
  let digits := match cs with
    | '+' :: rest => rest
    | cs => cs
  if digits.isEmpty then none
  else digits.foldl (fun n c => do return (← n) * 16 + (← hexValue? c)) (some 0)

/-- The digits, no more than `limit`, that have a value, and the characters after them. -/
def digitsWithin (value? : Char → Option Nat) : Nat → List Char → List Nat × List Char
  | limit + 1, c :: rest =>
    match value? c with
    | some v =>
      let (vs, rest) := digitsWithin value? limit rest
      (v :: vs, rest)
    | none => ([], c :: rest)
  | _, cs => ([], cs)

/-- The character whose code is given by digits, one byte long and not beyond ASCII. -/
def byteChar? (base : Nat) (digits : List Nat) : Option Char :=
  let code := digits.foldl (fun n d => n * base + d) 0 % 256
  if code ≤ 127 then some (Char.ofNat code) else none

/-- The character that stands after a backslash in an escaped string. -/
def escapedChar? : List Char → Option (Char × List Char)
  | 'b' :: rest => some (Char.ofNat 8, rest)
  | 'f' :: rest => some (Char.ofNat 12, rest)
  | 'n' :: rest => some ('\n', rest)
  | 'r' :: rest => some ('\r', rest)
  | 't' :: rest => some ('\t', rest)
  | 'u' :: rest =>
    if rest.length < 4 then none
    else ((hexRun? (rest.take 4)).bind charOf?).map fun c => (c, rest.drop 4)
  | 'U' :: rest =>
    if rest.length < 8 then none
    else ((hexRun? (rest.take 8)).bind charOf?).map fun c => (c, rest.drop 8)
  | 'x' :: rest =>
    match digitsWithin hexValue? 2 rest with
    | ([], rest) => some ('x', rest)
    | (digits, rest) => (byteChar? 16 digits).map fun c => (c, rest)
  | c :: rest =>
    if (octalValue? c).isSome then
      let (digits, rest) := digitsWithin octalValue? 3 (c :: rest)
      (byteChar? 8 digits).map fun c => (c, rest)
    else some (c, rest)
  | [] => none

/-- The rest of an escaped string after its opening quote, in at most `steps` steps. -/
def escapedFrom : Nat → List Char → Option (List Char × List Char)
  | 0, _ => none
  | _, [] => none
  | steps + 1, '\'' :: rest =>
    match rest with
    | '\'' :: rest => (escapedFrom steps rest).map fun (s, r) => ('\'' :: s, r)
    | rest => some ([], rest)
  | steps + 1, '\\' :: rest =>
    match escapedChar? rest with
    | none => none
    | some (c, rest) =>
      if c.toNat = 0 then none else (escapedFrom steps rest).map fun (s, r) => (c :: s, r)
  | steps + 1, c :: rest => (escapedFrom steps rest).map fun (s, r) => (c :: s, r)

/-- An escaped string; `whole` starts with its letter. -/
def escapedString (whole : List Char) : Scan Token :=
  match escapedFrom whole.length (whole.drop 2) with
  | some (value, rest) => found (.string .escaped (String.ofList value)) rest
  | none => .error ⟨"Unterminated encoded string literal", whole⟩

/-- The character given by exactly `left` more hexadecimal digits. -/
def unicodeChar (code : Nat) : Nat → List Char → Scan Char
  | 0, rest =>
    match charOf? code with
    | some c => found c rest
    | none =>
      .error ⟨"Invalid unicode character: " ++ String.ofList (Nat.toDigits 16 code), rest⟩
  | _ + 1, [] =>
    .error ⟨"Unexpected EOF while parsing hex digit in escaped unicode string.", []⟩
  | left + 1, c :: rest =>
    match hexValue? c with
    | some d => unicodeChar (code * 16 + d) left rest
    | none =>
      .error ⟨"Invalid hex digit in escaped unicode string: " ++ String.singleton c, rest⟩

/-- The rest of a string with code points after its opening quote, in at most `steps` steps. -/
def unicodeFrom : Nat → List Char → Scan (List Char)
  | 0, _ => .error ⟨"Unterminated unicode encoded string literal", []⟩
  | _, [] => .error ⟨"Unterminated unicode encoded string literal", []⟩
  | steps + 1, '\'' :: rest =>
    match rest with
    | '\'' :: rest => (unicodeFrom steps rest).map fun (s, r) => ('\'' :: s, r)
    | rest => found [] rest
  | steps + 1, '\\' :: rest =>
    let char : Scan Char :=
      match rest with
      | '\\' :: rest => found '\\' rest
      | '+' :: rest => unicodeChar 0 6 rest
      | rest => unicodeChar 0 4 rest
    match char with
    | .error e => .error e
    | .ok (c, rest) => (unicodeFrom steps rest).map fun (s, r) => (c :: s, r)
  | steps + 1, c :: rest => (unicodeFrom steps rest).map fun (s, r) => (c :: s, r)

/-- A string with code points; `whole` starts with its letter. -/
def unicodeString (whole : List Char) : Scan Token :=
  (unicodeFrom whole.length (whole.drop 3)).map fun (value, rest) =>
    (.string .unicode (String.ofList value), rest)

/-! ### Words, numbers and parameters -/

/-- A bare word whose first `length` characters are settled already. -/
def bareWord (dialect : Dialect) (length : Nat) (cs : List Char) : Scan Token :=
  let more := (cs.drop length).takeWhile dialect.continuesWord
  found (.word (String.ofList (cs.take length ++ more)) none)
    ((cs.drop length).dropWhile dialect.continuesWord)

/-- The exponent at the front: `none` when there is none, and otherwise its characters, no digits
among them when the letter is not followed by any. -/
def exponent? : List Char → Option (List Char × List Char)
  | c :: rest =>
    if c = 'e' ∨ c = 'E' then
      let (sign, digits) : List Char × List Char :=
        match rest with
        | '+' :: ds => (['+'], ds)
        | '-' :: ds => (['-'], ds)
        | ds => ([], ds)
      let run := digits.takeWhile Char.isDigit
      some (if run.isEmpty then [] else c :: (sign ++ run), digits.dropWhile Char.isDigit)
    else none
  | [] => none

/-- The end of a number after its digits, point and exponent. -/
def finishNumber (spelling : List Char) : List Char → Scan Token
  | 'L' :: rest => found (.number (String.ofList spelling) true) rest
  | rest => found (.number (String.ofList spelling) false) rest

/-- A number after its digits and point. -/
def afterDigits (dialect : Dialect) (spelling rest : List Char) : Scan Token :=
  match exponent? rest with
  | some ([], _) => finishNumber spelling rest
  | some (exponent, rest) => finishNumber (spelling ++ exponent) rest
  | none =>
    let word := if dialect.wordsStartWithDigits then rest.takeWhile dialect.continuesWord else []
    if word.isEmpty then finishNumber spelling rest
    else
      found (.word (String.ofList (spelling ++ word)) none)
        (rest.dropWhile dialect.continuesWord)

/-- A number, or a point alone. -/
def number (dialect : Dialect) (cs : List Char) : Scan Token :=
  let whole := cs.takeWhile Char.isDigit
  match whole, cs.dropWhile Char.isDigit with
  | ['0'], 'x' :: rest =>
    found (.string .hex (String.ofList (rest.takeWhile fun c => (hexValue? c).isSome)))
      (rest.dropWhile fun c => (hexValue? c).isSome)
  | whole, '.' :: rest =>
    let fraction := rest.takeWhile Char.isDigit
    if whole.isEmpty && fraction.isEmpty then found (.sign ".") rest
    else afterDigits dialect (whole ++ '.' :: fraction) (rest.dropWhile Char.isDigit)
  | whole, rest => afterDigits dialect whole rest

/-- The characters up to the closing tag, and the characters after it. `tag` is what has to follow
a dollar sign, `wanted` what is still to come of it after the last dollar sign, when one is open.
A character that breaks off a tag is a character of the text, be it a dollar sign itself. -/
def upToTag (tag : List Char) (wanted : Option (List Char)) :
    List Char → Option (List Char × List Char)
  | [] => none
  | c :: rest =>
    let within (wanted : Option (List Char)) : Option (List Char × List Char) :=
      (upToTag tag wanted rest).map fun (s, r) => (c :: s, r)
    match wanted with
    | none => within (if c = '$' then some tag else none)
    | some [] =>
      if c = '$' then some ([], rest) else within none
    | some (d :: more) => within (if c = d then some more else none)

/-- The text up to the closing tag without that tag, and the characters after it. -/
def upToDollarTag (tag cs : List Char) : Option (List Char × List Char) :=
  (upToTag tag none cs).map fun (s, r) => (s.take (s.length - (tag.length + 1)), r)

/-- The text between two doubled dollar signs: a dollar sign in it counts when another character
follows. -/
def upToDollars (afterDollar : Bool) : List Char → Option (List Char × List Char)
  | [] => none
  | c :: rest =>
    if c = '$' then
      if afterDollar then some ([], rest) else upToDollars true rest
    else
      (upToDollars false rest).map fun (s, r) =>
        (if afterDollar then '$' :: c :: s else c :: s, r)

/-- What a dollar sign starts: a parameter or a string between two tags. -/
def dollar (rest : List Char) : Scan Token :=
  match rest with
  | '$' :: rest =>
    match upToDollars false rest with
    | some (value, rest) => found (.string (.inDollars "") (String.ofList value)) rest
    | none => .error ⟨"Unterminated dollar-quoted string", []⟩
  | _ =>
    let inTag (c : Char) : Bool := Text.isLetter c || Text.isNumeral c || c == '_'
    let tag := rest.takeWhile inTag
    match rest.dropWhile inTag with
    | '$' :: rest =>
      match upToDollarTag tag rest with
      | some (value, rest) =>
        found (.string (.inDollars (String.ofList tag)) (String.ofList value)) rest
      | none => .error ⟨"Unterminated dollar-quoted, expected $", []⟩
    | rest => found (.parameter ("$" ++ String.ofList tag)) rest

/-! ### Comments -/

/-- The characters after a line that is a comment. -/
def afterLine : List Char → List Char
  | [] => []
  | c :: rest => if c = '\n' then rest else afterLine rest

/-- The characters after a comment that is open `depth` times, `last` being the character before. -/
def afterComment (depth : Nat) (last : Char) : List Char → Option (List Char)
  | [] => none
  | c :: rest =>
    if last = '/' ∧ c = '*' then afterComment (depth + 1) c rest
    else if last = '*' ∧ c = '/' then
      match depth with
      | 0 | 1 => some rest
      | depth + 1 => afterComment depth c rest
    else afterComment depth c rest

/-! ### Operators -/

/-- The operators: how each is spelled, how it is shown, and whether a user may go on with it to
spell an operator of his own. A spelling comes before every shorter one it starts with. -/
def operators : List (String × String × Bool) :=
  [("->>", "->>", true), ("->", "->", true), ("-", "-", true), ("+", "+", false),
   ("*", "*", false), ("/", "/", false), ("%", "%", true), ("||/", "||/", true),
   ("||", "||", true), ("|/", "|/", true), ("|", "|", true), ("=>", "=>", false),
   ("==", "==", false), ("=", "=", false), ("!~~*", "!~~*", false), ("!~~", "!~~", false),
   ("!~*", "!~*", false), ("!~", "!~", false), ("!=", "<>", false), ("!!", "!!", false),
   ("!", "!", false), ("<=>", "<=>", true), ("<=", "<=", true), ("<>", "<>", true),
   ("<<", "<<", true), ("<@", "<@", true), ("<", "<", true), (">=", ">=", true),
   (">>", ">>", true), (">", ">", true), ("::", "::", false), (":=", ":=", false),
   (":", ":", false), ("&&", "&&", true), ("&", "&", true), ("^@", "^@", false),
   ("^", "^", false), ("~~*", "~~*", true), ("~~", "~~", true), ("~*", "~*", true),
   ("~", "~", true), ("#>>", "#>>", true), ("#>", "#>", true), ("#-", "#-", true),
   ("#", "#", true), ("@>", "@>", false), ("@?", "@?", false), ("@@", "@@", false),
   ("@", "@", false), ("(", "(", false), (")", ")", false), (",", ",", false),
   (";", ";", false), ("\\", "\\", false), ("[", "[", false), ("]", "]", false),
   ("\x7b", "\x7b", false), ("\x7d", "\x7d", false)]

/-- The operator at the front. -/
def operator? (dialect : Dialect) (cs : List Char) : Option (Token × List Char) :=
  match operators.find? fun entry => entry.1.toList.isPrefixOf cs with
  | none => none
  | some (spelling, shown, extensible) =>
    let rest := cs.drop spelling.toList.length
    let more := if extensible then rest.takeWhile dialect.continuesOperator else []
    if more.isEmpty then some (.sign shown, rest)
    else some (.userOperator (spelling ++ String.ofList more), rest.drop more.length)

/-- What a question mark starts. In one dialect it is an operator that takes the character after it
along. -/
def question (dialect : Dialect) (rest : List Char) : Scan Token :=
  if dialect = .postgres then
    match rest with
    | '|' :: rest => found (.sign "?|") rest
    | '&' :: rest => found (.sign "?&") rest
    | rest => found (.sign "?") (rest.drop 1)
  else
    found (.parameter ("?" ++ String.ofList (rest.takeWhile Text.isNumeral)))
      (rest.dropWhile Text.isNumeral)

/-- Whether `@`, `@@` or `#` stays a sign before `next`, where a word could start with it. -/
def staysSign (mark : List Char) : Option Char → Bool
  | none => true
  | some next =>
    next == ' ' ||
      (mark == ['@'] && (next == '>' || next == '?')) ||
      (mark == ['#'] && (next == '-' || next == '>'))

/-- A word that starts with `@`, `@@` or `#`, together with the character after these. -/
def markedWord? (dialect : Dialect) (cs : List Char) : Option Nat :=
  match cs with
  | '@' :: '@' :: rest =>
    if dialect.startsWord '@' && !staysSign ['@', '@'] rest.head? then some 3 else none
  | '@' :: rest =>
    if dialect.startsWord '@' && !staysSign ['@'] rest.head? then some 2 else none
  | '#' :: rest =>
    if dialect.startsWord '#' && !staysSign ['#'] rest.head? then some 2 else none
  | _ => none

/-! ### Tokens -/

/-- A string or a word that starts with one of the letters before a quote. -/
def lettered (dialect : Dialect) (cs : List Char) : Option (Scan Token) :=
  match cs with
  | c :: '\'' :: _ =>
    let quoted := cs.tail
    match c.toLower with
    | 'b' => if dialect.hasByteStrings then some (string .bytes '\'' false quoted) else none
    | 'r' =>
      if dialect.hasRawStrings then some (rawString .raw .rawInTriple '\'' quoted) else none
    | 'n' => some (string .national '\'' true quoted)
    | 'e' => some (escapedString cs)
    | 'x' => some (string .hex '\'' true quoted)
    | _ => none
  | c :: '"' :: _ =>
    match c.toLower with
    | 'b' => if dialect.hasByteStrings then some (string .bytesInDouble '"' false cs.tail) else none
    | 'r' =>
      if dialect.hasRawStrings then some (rawString .rawInDouble .rawInTripleDouble '"' cs.tail)
      else none
    | _ => none
  | c :: '&' :: '\'' :: _ =>
    if c.toLower = 'u' ∧ dialect.hasUnicodeStrings then some (unicodeString cs) else none
  | _ => none

/-- Whether `cs` starts with a comment on one line. -/
def startsLineComment (dialect : Dialect) (cs : List Char) : Bool :=
  ['-', '-'].isPrefixOf cs || (dialect == .mysql && cs.head? == some '#')

/-- The token at the front, which is neither a blank nor a comment. -/
def token (dialect : Dialect) (c : Char) (rest : List Char) : Scan Token :=
  let cs := c :: rest
  match lettered dialect cs with
  | some scan => scan
  | none =>
    if c = '\'' then string .plain '\'' dialect.escapesInText cs
    else
      match dialect.closingQuote? c with
      | some closing => quotedWord c closing cs
      | none =>
        if c = '"' then string .inDouble '"' dialect.escapesInText cs
        else if c.isDigit || c == '.' then number dialect cs
        else if c = '?' then question dialect rest
        else if dialect = .ansi ∧ ['/', '/'].isPrefixOf cs then found (.sign "//") rest.tail
        else
          match markedWord? dialect cs with
          | some length => bareWord dialect length cs
          | none =>
            match operator? dialect cs with
            | some result => .ok result
            | none =>
              if dialect.startsWord c then bareWord dialect 1 cs
              else if c = '$' then dollar rest
              else found (.stray c) rest

/-- Whether a character is a blank where it stands, not the start of a word. -/
def isBlank (dialect : Dialect) (c : Char) : Bool :=
  c == ' ' || c == '\t' || c == '\n' || c == '\r' ||
    (Text.isBlank c && !dialect.startsWord c)

/-- What stands at the front: a token, or a blank or comment which is none. -/
def step (dialect : Dialect) (c : Char) (rest : List Char) : Scan (Option Token) :=
  if isBlank dialect c then
    match c, rest with
    | '\r', '\n' :: rest => found none rest
    | _, rest => found none rest
  else if startsLineComment dialect (c :: rest) then found none (afterLine rest)
  else
    match c, rest with
    | '/', '*' :: rest =>
      match afterComment 1 ' ' rest with
      | some rest => found none rest
      | none => .error ⟨"Unexpected EOF while in a multi-line comment", []⟩
    | c, rest => (token dialect c rest).map fun (token, rest) => (some token, rest)

/-- The place after the characters that `rest` leaves behind. -/
def placeAt (place : Location) (cs rest : List Char) : Location :=
  place.after (cs.take (cs.length - rest.length))

/-- The tokens of the characters from `place` on, in at most `steps` steps. -/
def tokensFrom (dialect : Dialect) : Nat → Location → List Char → Except Failure (List Located)
  | 0, _, _ => .ok []
  | _, _, [] => .ok []
  | steps + 1, place, c :: rest =>
    match step dialect c rest with
    | .error fault =>
      .error (.message fault.message (placeAt place (c :: rest) fault.rest))
    | .ok (token, rest') =>
      match tokensFrom dialect steps (placeAt place (c :: rest) rest') rest' with
      | .error e => .error e
      | .ok tokens =>
        match token with
        | some token => .ok (⟨token, place⟩ :: tokens)
        | none => .ok tokens

/-- The tokens of a statement, or why it has none. -/
def tokenize (dialect : Dialect) (sql : String) : Except Failure (List Located) :=
  tokensFrom dialect sql.toList.length .start sql.toList

end SelectBinding.Sql.Tokenizer
