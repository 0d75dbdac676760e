import SelectBinding.Sql.Dialect
import SelectBinding.Sql.Failure
import SelectBinding.Sql.Tree

/-!
Reading a list of tokens from the front.

A parser takes the tokens that are left and returns what it read with the tokens after it, or
fails. A failure leaves nothing behind, so a choice is made by trying one parser and, where that
fails, another one on the same tokens. A statement that is nested too deeply is no ordinary
failure: it is not taken back by trying something else.
-/

namespace SelectBinding.Sql

/-- What a parser has to know beside the tokens. -/
structure Context where
  dialect : Dialect
  /-- Whether `PRIOR` may stand before a term. -/
  hierarchical : Bool := false

/-- Why reading stopped, and the tokens that were left there. -/
structure Stop where
  failure : Failure
  left : List Located

/-- What a parser read and the tokens after it, or why it stopped. -/
abbrev Outcome (α : Type) := Except Stop (α × List Located)

/-- The tokens after what was read, or where reading stopped. -/
def Outcome.left {α : Type} : Outcome α → List Located
  | .ok (_, rest) => rest
  | .error stop => stop.left

/-- A parser. Whether it reads something or fails, the tokens that it leaves are the last ones of
those that were there. -/
@[ext]
structure Parser (α : Type) where
  run : Context → List Located → Outcome α
  left_suffix : ∀ context tokens, (run context tokens).left <:+ tokens

namespace Parser

instance {α : Type} : CoeFun (Parser α) fun _ => Context → List Located → Outcome α :=
  ⟨run⟩

section Left

variable {α : Type} (p : Parser α) {context : Context} {tokens : List Located}

theorem rest_suffix {a : α} {rest : List Located} (h : p context tokens = .ok (a, rest)) :
    rest <:+ tokens := by
  have hleft := p.left_suffix context tokens
  rwa [h] at hleft

theorem stop_suffix {stop : Stop} (h : p context tokens = .error stop) : stop.left <:+ tokens := by
  have hleft := p.left_suffix context tokens
  rwa [h] at hleft

end Left

instance : Monad Parser where
  pure a := ⟨fun _ tokens => .ok (a, tokens), fun _ tokens => tokens.suffix_refl⟩
  bind p f :=
    { run := fun context tokens =>
        match p context tokens with
        | .ok (a, rest) => f a context rest
        | .error stop => .error stop
      left_suffix := fun context tokens => by
        split
        · next h => exact ((f _).left_suffix context _).trans (p.rest_suffix h)
        · next h => exact p.stop_suffix h }

/-- What the context and the tokens tell without reading anything. -/
def look {α : Type} (f : Context → List Located → α) : Parser α :=
  ⟨fun context tokens => .ok (f context tokens, tokens), fun _ tokens => tokens.suffix_refl⟩

/-- The parser that fails. -/
def failWith {α : Type} (failure : Failure) : Parser α :=
  ⟨fun _ tokens => .error ⟨failure, tokens⟩, fun _ tokens => tokens.suffix_refl⟩

/-- The failure with a message about a place. -/
def failAt {α : Type} (text : String) (place : Location) : Parser α :=
  failWith (.message text place)

/-- The failure with a message about no place. -/
def fail {α : Type} (text : String) : Parser α :=
  failAt text .nowhere

/-- The failure to find what the grammar asks for. -/
def expected {α : Type} (wanted : String) (got : Located) : Parser α :=
  failWith (.unexpected wanted got.token.text got.place)

/-- Whether the dialect is one of a list. -/
def dialectIn (dialects : List Dialect) : Parser Bool :=
  look fun context _ => context.dialect.isOneOf dialects

/-- What a question yields in some of the dialects; in the others the answer is no, and nothing is
read. -/
def onlyIn (dialects : List Dialect) (question : Parser Bool) : Parser Bool := do
  if ← dialectIn dialects then question else return false

/-- The dialect. -/
def dialect : Parser Dialect :=
  look fun context _ => context.dialect

/-- What a parser reads when `PRIOR` may stand before a term. -/
def hierarchically {α : Type} (p : Parser α) : Parser α :=
  ⟨fun context => p { context with hierarchical := true }, fun _ => p.left_suffix _⟩

/-- Whether `PRIOR` may stand before a term. -/
def isHierarchical : Parser Bool :=
  look fun context _ => context.hierarchical

/-- The end of the statement, which stands nowhere. -/
def finish : Located := ⟨.finish, .nowhere⟩

/-- The token at an index, which stays there. -/
def peekAt (index : Nat) : Parser Located :=
  look fun _ tokens => (tokens[index]?).getD finish

/-- The next token, which stays there. -/
def peek : Parser Located :=
  peekAt 0

/-- The number of tokens that are left. -/
def remaining : Parser Nat :=
  look fun _ tokens => tokens.length

/-- The next token. -/
def next : Parser Located where
  run := fun _ tokens =>
    match tokens with
    | [] => .ok (finish, [])
    | token :: rest => .ok (token, rest)
  left_suffix := fun _ tokens => by
    cases tokens with
    | nil => exact List.suffix_refl _
    | cons token rest => exact List.suffix_cons ..

/-- Whether there is a next token and it is one that is asked for, which then is read. -/
def readIf (p : Token → Prop) [DecidablePred p] : Parser Bool where
  run := fun _ tokens =>
    match tokens with
    | [] => .ok (false, [])
    | t :: rest => if p t.token then .ok (true, rest) else .ok (false, tokens)
  left_suffix := fun _ tokens => by
    cases tokens with
    | nil => exact List.suffix_refl _
    | cons t rest =>
      dsimp only
      split
      · exact List.suffix_cons ..
      · exact List.suffix_refl _

/-- Whether the next token is `token`, which then is read. -/
def consume (token : Token) : Parser Bool :=
  readIf (· = token)

/-- Whether the next token is the sign, which then is read. -/
def sign (spelling : String) : Parser Bool :=
  consume (.sign spelling)

/-- Whether the next token is the sign, which stays there. -/
def peekSign (spelling : String) : Parser Bool := do
  return (← peek).token == .sign spelling

/-- Whether the next token is the keyword, which stays there. -/
def peekKeyword (word : String) : Parser Bool := do
  return (← peek).token.isKeyword word

/-- Whether the next token is the keyword, which then is read. -/
def keyword (word : String) : Parser Bool :=
  readIf fun token => token.isKeyword word

/-- Whether the next tokens are these keywords, which then are read, all of them or none. -/
def keywords (words : List String) : Parser Bool where
  run := fun _ tokens =>
    let ahead := tokens.take words.length
    if ahead.length = words.length ∧
        (ahead.zip words).all fun (t, word) => t.token.isKeyword word then
      .ok (true, tokens.drop words.length)
    else .ok (false, tokens)
  left_suffix := fun _ tokens => by
    dsimp only
    split
    · exact List.drop_suffix ..
    · exact List.suffix_refl _

/-- The next token, if it is one of these keywords. -/
def oneOf (words : List String) : Parser (Option String) where
  run := fun _ tokens =>
    match tokens with
    | [] => .ok (none, [])
    | t :: rest =>
      match t.token.keyword?.filter words.contains with
      | some word => .ok (some word, rest)
      | none => .ok (none, tokens)
  left_suffix := fun _ tokens => by
    cases tokens with
    | nil => exact List.suffix_refl _
    | cons t rest =>
      dsimp only
      split
      · exact List.suffix_cons ..
      · exact List.suffix_refl _

/-- The sign, which has to be there. -/
def expectSign (spelling : String) : Parser Unit := do
  unless ← sign spelling do expected spelling (← peek)

/-- The keyword, which has to be there. -/
def expectKeyword (word : String) : Parser Unit := do
  unless ← keyword word do expected word (← peek)

/-- The keywords, which have to be there. -/
def expectKeywords : List String → Parser Unit
  | [] => pure ()
  | word :: rest => do
    expectKeyword word
    expectKeywords rest

/-- One of the keywords, which has to be there. -/
def expectOneOf (words : List String) : Parser String := do
  match ← oneOf words with
  | some word => return word
  | none => expected ("one of " ++ String.intercalate " or " words) (← peek)

/-- What a parser reads, or nothing when it fails. -/
def maybe {α : Type} (p : Parser α) : Parser (Option α) where
  run := fun context tokens =>
    match p context tokens with
    | .ok (a, rest) => .ok (some a, rest)
    | .error stop => if stop.failure = .tooDeep then .error stop else .ok (none, tokens)
  left_suffix := fun context tokens => by
    split
    · next h => exact p.rest_suffix h
    · next h =>
      split
      · exact p.stop_suffix h
      · exact List.suffix_refl _

/-- What a parser reads, or why it fails. -/
def attempt {α : Type} (p : Parser α) : Parser (Except Failure α) where
  run := fun context tokens =>
    match p context tokens with
    | .ok (a, rest) => .ok (.ok a, rest)
    | .error stop => .ok (.error stop.failure, tokens)
  left_suffix := fun context tokens => by
    split
    · next h => exact p.rest_suffix h
    · exact List.suffix_refl _

/-- What a parser reads. Where it fails it reads nothing, and reading goes on where it stopped. -/
def regardless {α : Type} (p : Parser α) : Parser (Option α) where
  run := fun context tokens =>
    match p context tokens with
    | .ok (a, rest) => .ok (some a, rest)
    | .error stop => .ok (none, stop.left)
  left_suffix := fun context tokens => by
    split
    · next h => exact p.rest_suffix h
    · next h => exact p.stop_suffix h

/-- What a parser reads, with the last token of it. -/
def withLast {α : Type} (p : Parser α) : Parser (α × Located) where
  run := fun context tokens =>
    match p context tokens with
    | .ok (a, rest) => .ok ((a, (tokens[tokens.length - rest.length - 1]?).getD finish), rest)
    | .error stop => .error stop
  left_suffix := fun context tokens => by
    split
    · next h => exact p.rest_suffix h
    · next h => exact p.stop_suffix h

/-- What a parser reads, which is left there. -/
def ahead {α : Type} (p : Parser α) : Parser α where
  run := fun context tokens =>
    match p context tokens with
    | .ok (a, _) => .ok (a, tokens)
    | .error stop => .error stop
  left_suffix := fun context tokens => by
    split
    · exact List.suffix_refl _
    · next h => exact p.stop_suffix h

/-- What a parser looks for; when it is not there, nothing is read. -/
def lookFor {α : Type} (p : Parser (Option α)) : Parser (Option α) where
  run := fun context tokens =>
    match p context tokens with
    | .ok (some a, rest) => .ok (some a, rest)
    | .ok (none, _) => .ok (none, tokens)
    | .error stop => .error stop
  left_suffix := fun context tokens => by
    split
    · next h => exact p.rest_suffix h
    · exact List.suffix_refl _
    · next h => exact p.stop_suffix h

/-- What comes of taking step after step, no more than `limit` of them, while there is one. -/
def steps {α : Type} (step : α → Parser (Option α)) : Nat → α → Parser α
  | 0, a => pure a
  | limit + 1, a => do
    match ← step a with
    | none => return a
    | some a => steps step limit a

/-- What comes of taking step after step while there is one. Every step reads a token, so their
number is bounded by that of the tokens. -/
def repeatedly {α : Type} (step : α → Parser (Option α)) (a : α) : Parser α := do
  steps step ((← remaining) + 1) a

/-- What a parser reads as often as `more` allows. -/
def many {α : Type} (more : Parser Bool) (p : Parser α) : Parser (List α) := do
  let found ← repeatedly (fun found => do
    if ← more then return some ((← p) :: found) else return none) []
  return found.reverse

/-- Items separated by commas, at least one. -/
def commaSeparated {α : Type} (p : Parser α) : Parser (List α) := do
  let first ← p
  return first :: (← many (sign ",") p)

/-- Items separated by commas up to a sign, which stays there; perhaps none. -/
def commaSeparatedUpTo {α : Type} (closing : String) (p : Parser α) : Parser (List α) := do
  if ← peekSign closing then return [] else commaSeparated p

/-- What a parser reads between parentheses. -/
def parenthesized {α : Type} (p : Parser α) : Parser α := do
  expectSign "("
  let a ← p
  expectSign ")"
  return a

/-- What a parser reads after a keyword, if that is there. -/
def afterKeyword {α : Type} (word : String) (p : Parser α) : Parser (Option α) := do
  if ← keyword word then return some (← p) else return none

end Parser

end SelectBinding.Sql
