import SelectBinding.Json.Read
import SelectBinding.Toml.Scalar
import SelectBinding.Toml.Table

/-!
Reading TOML text.

A reader takes the characters that are left and returns what it read with the characters after it,
or nothing when the text is no TOML. The readers of values count down a number of steps; a text
never needs more steps than it has characters, twice over.
-/

namespace SelectBinding.Toml

/-- A reader. -/
abbrev Reader (α : Type) := StateT (List Char) Option α

/-! ### Characters -/

/-- A blank on a line. -/
def isBlank (c : Char) : Bool :=
  c == ' ' || c == '\t'

/-- Whether a character may stand in a comment or in a text as it is. -/
def isPrintable (c : Char) : Bool :=
  c == '\t' || (0x20 ≤ c.toNat && c.toNat != 0x7f)

/-- The characters at the front that satisfy `p`. -/
def readWhile (p : Char → Bool) : Reader (List Char) :=
  fun cs => some (cs.takeWhile p, cs.dropWhile p)

/-- Whether the text goes on with these characters, which then are read. -/
def goesOn (start : List Char) : Reader Bool :=
  fun cs =>
    if start.isPrefixOf cs then some (true, cs.drop start.length) else some (false, cs)

/-- These characters, which have to be there. -/
def expect (start : List Char) : Reader Unit := do
  unless ← goesOn start do failure

/-- The next character, which stays there. -/
def peek : Reader (Option Char) :=
  fun cs => some (cs.head?, cs)

/-- The blanks of a line. -/
def blanks : Reader Unit := do
  let _ ← readWhile isBlank

/-- Whether a line ends here, which then is read. -/
def newline : Reader Bool := do
  if ← goesOn ['\n'] then return true else goesOn ['\r', '\n']

/-- A comment, if there is one. -/
def comment : Reader Unit := do
  if ← goesOn ['#'] then
    let _ ← readWhile isPrintable

/-- The rest of a line after a value or a header. -/
def lineEnd : Reader Unit := do
  blanks
  comment
  match ← peek with
  | none => return ()
  | some _ => unless ← newline do failure

/-- Blanks, comments and ends of lines, in at most so many lines. -/
def gap : Nat → Reader Unit
  | 0 => failure
  | lines + 1 => do
    blanks
    comment
    if ← newline then gap lines else return ()

/-- Blanks, comments and ends of lines. -/
def gaps : Reader Unit :=
  fun cs => gap (cs.length + 1) cs

/-! ### Texts -/

/-- The character with a code point given by hexadecimal digits. -/
def codePoint? (digits : List Char) : Option Char :=
  if digits.all (isDigitOf 16) then
    let n := runValue 16 digits
    if n < 0xd800 ∨ (0xe000 ≤ n ∧ n < 0x110000) then some (Char.ofNat n) else none
  else none

/-- The character that stands after a backslash for another one. -/
def escaped? (c : Char) : Option Char :=
  if c = '/' then none else Json.escaped? c

/-- The character that an escape stands for, after the backslash, and what follows it. -/
def escape? : List Char → Option (Char × List Char)
  | 'u' :: rest => (codePoint? (rest.take 4)).bind fun c =>
    if 4 ≤ rest.length then some (c, rest.drop 4) else none
  | 'U' :: rest => (codePoint? (rest.take 8)).bind fun c =>
    if 8 ≤ rest.length then some (c, rest.drop 8) else none
  | c :: rest => (escaped? c).map fun c => (c, rest)
  | [] => none

/-- What follows the blanks and ends of lines at the front. -/
def afterGap : List Char → List Char
  | '\r' :: '\n' :: rest => afterGap rest
  | c :: rest => if isBlank c || c == '\n' then afterGap rest else c :: rest
  | [] => []

/-- What follows the blanks and ends of lines after a backslash at the end of a line. -/
def afterLineBreak? (cs : List Char) : Option (List Char) :=
  let after := cs.dropWhile isBlank
  if after.head? = some '\n' ∨ ['\r', '\n'].isPrefixOf after then some (afterGap after) else none

/-- A text on one line, after its opening quote. -/
def lineText (quote : Char) (escapes : Bool) (done : List Char) : Nat → List Char →
    Option (String × List Char)
  | 0, _ => none
  | _, [] => none
  | steps + 1, c :: rest =>
    if c = quote then some (String.ofList done.reverse, rest)
    else if c = '\\' ∧ escapes then
      match escape? rest with
      | some (c, rest) => lineText quote escapes (c :: done) steps rest
      | none => none
    else if isPrintable c then lineText quote escapes (c :: done) steps rest
    else none

/-- How many quotes in a row a text starts with. -/
def quoteRun (quote : Char) (cs : List Char) : Nat :=
  (cs.takeWhile fun c => c == quote).length

/-- A text on several lines, after its opening quotes. Up to two quotes may stand before the three
that close it. -/
def linesText (quote : Char) (escapes : Bool) (done : List Char) : Nat → List Char →
    Option (String × List Char)
  | 0, _ => none
  | _, [] => none
  | steps + 1, c :: rest =>
    if c = quote then
      let quotes := quoteRun quote (c :: rest)
      if quotes < 3 then linesText quote escapes (c :: done) steps rest
      else if quotes ≤ 5 then
        some (String.ofList (List.replicate (quotes - 3) quote ++ done).reverse,
          (c :: rest).drop quotes)
      else none
    else if c = '\\' ∧ escapes then
      match afterLineBreak? rest with
      | some rest => linesText quote escapes done steps rest
      | none =>
        match escape? rest with
        | some (c, rest) => linesText quote escapes (c :: done) steps rest
        | none => none
    else if c = '\r' ∧ rest.head? = some '\n' then linesText quote escapes done steps rest
    else if isPrintable c ∨ c = '\n' then linesText quote escapes (c :: done) steps rest
    else none

/-- A text on one line. -/
def readLineText : Reader String :=
  fun cs =>
    match cs with
    | '"' :: rest => lineText '"' true [] cs.length rest
    | '\'' :: rest => lineText '\'' false [] cs.length rest
    | _ => none

/-- A text. An end of line right after three opening quotes is left out. -/
def readText : Reader String := do
  if ← goesOn ['"', '"', '"'] then
    let _ ← newline
    fun cs => linesText '"' true [] (cs.length + 1) cs
  else if ← goesOn ['\'', '\'', '\''] then
    let _ ← newline
    fun cs => linesText '\'' false [] (cs.length + 1) cs
  else readLineText

/-! ### Keys -/

/-- Whether a character may stand in a key as it is. -/
def isKeyCharacter (c : Char) : Bool :=
  c.isAlphanum || c == '_' || c == '-'

/-- A part of a key with the blanks around it. -/
def keyPart : Reader String := do
  blanks
  let bare ← readWhile isKeyCharacter
  let part ← if bare.isEmpty then readLineText else pure (String.ofList bare)
  blanks
  return part

/-- The parts of a key, at most so many. -/
def keyParts : Nat → Reader (List String)
  | 0 => failure
  | parts + 1 => do
    let part ← keyPart
    if ← goesOn ['.'] then return part :: (← keyParts parts) else return [part]

/-- How deep keys and values may be nested. -/
def depthLimit : Nat := 79

/-- A key: the parts before the last one, and the last one. -/
def key : Reader (List String × String) := do
  let parts ← keyParts depthLimit
  match parts.reverse with
  | last :: before => return (before.reverse, last)
  | [] => failure

/-! ### Values -/

/-- Whether a character may stand in a word. -/
def isWordCharacter (c : Char) : Bool :=
  c.isAlphanum || c == '_' || c == '-' || c == '+' || c == '.' || c == ':'

/-- A word. A blank may stand between a day and a time of day. -/
def readWord : Reader Data := do
  let first ← readWhile isWordCharacter
  let more : Reader (List Char) := fun cs =>
    match cs with
    | ' ' :: c :: rest =>
      if c.isDigit ∧ afterDate? first = some [] then
        some (' ' :: (c :: rest).takeWhile isWordCharacter,
          (c :: rest).dropWhile isWordCharacter)
      else some ([], cs)
    | cs => some ([], cs)
  let more ← more
  match word (first ++ more) with
  | some data => return data
  | none => failure

mutual

/-- A value, `depth` levels of values being allowed inside it. -/
def readValue (depth : Nat) : Nat → Reader Data
  | 0 => failure
  | steps + 1 => do
    match ← peek with
    | some '[' =>
      expect ['[']
      match depth with
      | 0 => failure
      | depth + 1 =>
        gaps
        if ← goesOn [']'] then return .list [] else readItems depth steps []
    | some '{' =>
      expect ['{']
      match depth with
      | 0 => failure
      | depth + 1 =>
        blanks
        if ← goesOn ['}'] then return .record [] else readMembers depth steps []
    | some '"' => return .text (← readText)
    | some '\'' => return .text (← readText)
    | _ => readWord

/-- The items of an array after those in `done`, the last one first. -/
def readItems (depth : Nat) : Nat → List Data → Reader Data
  | 0, _ => failure
  | steps + 1, done => do
    let item ← readValue depth steps
    gaps
    if ← goesOn [','] then
      gaps
      if ← goesOn [']'] then return .list (item :: done).reverse
      else readItems depth steps (item :: done)
    else
      expect [']']
      return .list (item :: done).reverse

/-- The members of a table on one line after those in `done`. -/
def readMembers (depth : Nat) : Nat → Members → Reader Data
  | 0, _ => failure
  | steps + 1, done => do
    let (path, last) ← key
    expect ['=']
    blanks
    let value ← readValue depth steps
    blanks
    match addAt path last value .header done with
    | none => failure
    | some (_, done) =>
      if ← goesOn [','] then readMembers depth steps done
      else
        expect ['}']
        return .record (membersToData done)

end

/-! ### Lines -/

/-- A text as far as it was read. -/
structure Progress where
  members : Members := []
  /-- The header that keys stand under. -/
  path : List String := []

/-- The text after a change under a path. -/
def Progress.changed (progress : Progress) (path : List String) (change : Change) :
    Reader Progress :=
  match changeAt .parent change path .header progress.members with
  | some (_, members) => return { progress with members }
  | none => failure

/-- A header in single or double brackets, after the first bracket. -/
def header (progress : Progress) : Reader Progress := do
  let double ← goesOn ['[']
  let (path, last) ← key
  expect (if double then [']', ']'] else [']'])
  lineEnd
  let progress ← progress.changed path (if double then addTableItem last else addTable last)
  return { progress with path := path ++ [last] }

/-- A key and its value. -/
def keyLine (progress : Progress) : Reader Progress := do
  let (path, last) ← key
  expect ['=']
  blanks
  let value ← fun cs => readValue depthLimit (2 * cs.length + 2) cs
  lineEnd
  progress.changed progress.path (addAt path last value)

/-- The lines of a text, in at most so many steps. -/
def lines : Nat → Progress → Reader Progress
  | 0, _ => failure
  | steps + 1, progress => do
    gaps
    match ← peek with
    | none => return progress
    | some '[' =>
      expect ['[']
      lines steps (← header progress)
    | some _ => lines steps (← keyLine progress)

/-- The value that a text stands for, which is a record. A mark of the byte order may come first. -/
def read? (text : String) : Option Data :=
  let cs :=
    match text.toList with
    | '\uFEFF' :: rest => rest
    | cs => cs
  (lines (cs.length + 1) {} cs).map fun (progress, _) => .record (membersToData progress.members)

end SelectBinding.Toml
