import SelectBinding.Proofs.Place.Yielding
import SelectBinding.Sql.Grammar.Terms

/-!
The names in a term stand where tokens stand.

A name takes its place from the token it is, and a string that stands for a name stands nowhere.
The forms that are kept by their text only have no places at all.
-/

namespace SelectBinding.Sql

/-- The name stands in the region. -/
def Ident.Within (G : Region) (ident : Ident) : Prop :=
  ident.place ∈ G

mutual

/-- All names of the term stand in the region. -/
inductive Term.Within (G : Region) : Term → Prop where
  | name {ident : Ident} (h : ident.Within G) : Term.Within G (.name ident)
  | path {idents : List Ident} (h : ∀ ident ∈ idents, ident.Within G) :
      Term.Within G (.path idents)
  | literal (value : Literal) : Term.Within G (.literal value)
  | nested {term : Term} (h : Term.Within G term) : Term.Within G (.nested term)
  | unary (op : UnaryOperator) {term : Term} (h : Term.Within G term) :
      Term.Within G (.unary op term)
  | isNull {term : Term} (h : Term.Within G term) : Term.Within G (.isNull term)
  | isNotNull {term : Term} (h : Term.Within G term) : Term.Within G (.isNotNull term)
  | binary {left right : Term} (op : Operator) (h : Term.Within G left)
      (hright : Term.Within G right) : Term.Within G (.binary left op right)
  | like (negated any : Bool) {left pattern : Term} (escape : Option String)
      (h : Term.Within G left) (hpattern : Term.Within G pattern) :
      Term.Within G (.like negated any left pattern escape)
  | inList {left : Term} {items : List Term} (negated : Bool) (h : Term.Within G left)
      (hitems : ∀ item ∈ items, Term.Within G item) : Term.Within G (.inList left items negated)
  | between {subject low high : Term} (negated : Bool) (h : Term.Within G subject)
      (hlow : Term.Within G low) (hhigh : Term.Within G high) :
      Term.Within G (.between subject negated low high)
  | call {name : List Ident} (shape : CallShape) {args : List Argument}
      (h : ∀ ident ∈ name, ident.Within G) (hargs : ∀ arg ∈ args, Argument.Within G arg) :
      Term.Within G (.call name shape args)
  | subquery (text : String) : Term.Within G (.subquery text)
  | aboutSubquery (text : String) : Term.Within G (.aboutSubquery text)
  | other (text : String) : Term.Within G (.other text)

/-- All names of the argument stand in the region. -/
inductive Argument.Within (G : Region) : Argument → Prop where
  | term {t : Term} (h : Term.Within G t) : Argument.Within G (.term t)
  | wildcard : Argument.Within G .wildcard
  | qualifiedWildcard {name : List Ident} (h : ∀ ident ∈ name, ident.Within G) :
      Argument.Within G (.qualifiedWildcard name)
  | named (text : String) : Argument.Within G (.named text)

end

/-- The term is kept by its text only. -/
def Term.IsText (t : Term) : Prop :=
  ∃ text, t = .other text

/-- What an operator may make of the term before it, the terms that it takes along being such. -/
inductive Term.Extends (such : Term → Prop) (left : Term) : Term → Prop where
  | other (text : String) : Term.Extends such left (.other text)
  | aboutSubquery (text : String) : Term.Extends such left (.aboutSubquery text)
  | isNull : Term.Extends such left (.isNull left)
  | isNotNull : Term.Extends such left (.isNotNull left)
  | unary (op : UnaryOperator) : Term.Extends such left (.unary op left)
  | binary (op : Operator) {right : Term} (h : such right) :
      Term.Extends such left (.binary left op right)
  | like (negated any : Bool) {pattern : Term} (escape : Option String) (h : such pattern) :
      Term.Extends such left (.like negated any left pattern escape)
  | inList {items : List Term} (negated : Bool) (h : ∀ item ∈ items, such item) :
      Term.Extends such left (.inList left items negated)
  | between {low high : Term} (negated : Bool) (hlow : such low) (hhigh : such high) :
      Term.Extends such left (.between left negated low high)

/-- A name or a number by itself. Of all terms, only these may stand for themselves in a sorting. -/
def Term.IsAtom : Term → Prop
  | .name _ => True
  | .path _ => True
  | .literal (.number _ _) => True
  | _ => False

/-- All names of the term stand in the region, and it is none of them by itself, nor a number. -/
structure Term.Formed (G : Region) (t : Term) : Prop where
  within : t.Within G
  compound : ¬ t.IsAtom

namespace Term.Formed

variable {G : Region}

lemma other (text : String) : Term.Formed G (.other text) :=
  ⟨.other text, id⟩

lemma subquery (text : String) : Term.Formed G (.subquery text) :=
  ⟨.subquery text, id⟩

lemma aboutSubquery (text : String) : Term.Formed G (.aboutSubquery text) :=
  ⟨.aboutSubquery text, id⟩

lemma nested {t : Term} (h : t.Within G) : Term.Formed G (.nested t) :=
  ⟨.nested h, id⟩

lemma unary (op : UnaryOperator) {t : Term} (h : t.Within G) : Term.Formed G (.unary op t) :=
  ⟨.unary op h, id⟩

lemma call {name : List Ident} (shape : CallShape) {args : List Argument}
    (h : ∀ ident ∈ name, ident.Within G) (hargs : ∀ arg ∈ args, arg.Within G) :
    Term.Formed G (.call name shape args) :=
  ⟨.call shape h hargs, id⟩

end Term.Formed

lemma Term.IsText.formed {G : Region} {t : Term} (h : t.IsText) : t.Formed G := by
  obtain ⟨text, rfl⟩ := h
  exact .other text

lemma Term.IsText.within {G : Region} {t : Term} (h : t.IsText) : t.Within G := by
  obtain ⟨text, rfl⟩ := h
  exact .other text

lemma Term.IsText.extends {such : Term → Prop} {left t : Term} (h : t.IsText) :
    Term.Extends such left t := by
  obtain ⟨text, rfl⟩ := h
  exact .other text

/-- An operator leaves no name and no number by itself. -/
lemma Term.Extends.compound {such : Term → Prop} {left t : Term} (h : Term.Extends such left t) :
    ¬ t.IsAtom := by
  cases h <;> exact id

lemma Term.Extends.within {G : Region} {left t : Term} (h : Term.Extends (·.Within G) left t)
    (hleft : left.Within G) : t.Within G := by
  cases h with
  | other text => exact .other text
  | aboutSubquery text => exact .aboutSubquery text
  | isNull => exact .isNull hleft
  | isNotNull => exact .isNotNull hleft
  | unary op => exact .unary op hleft
  | binary op h => exact .binary op hleft h
  | like negated any escape h => exact .like negated any escape hleft h
  | inList negated h => exact .inList negated hleft h
  | between negated hlow hhigh => exact .between negated hleft hlow hhigh

namespace Grammar

open Sql.Parser

variable {G : Region}

/-! ### Names -/

lemma wordIdent_within {value : String} {quote : Option Char} {t : Located} (h : t.place ∈ G) :
    (wordIdent value quote t.place).Within G :=
  h

lemma stringIdent_within {quote : Char} {value : String} : (stringIdent quote value).Within G :=
  G.nowhere_mem

lemma identifier_within : Yields G identifier (·.Within G) := by
  refine Yields.next.bind fun t ht => ?_
  split
  · exact .pure (wordIdent_within ht)
  · exact .pure stringIdent_within
  · exact .pure stringIdent_within
  · exact .expected

lemma objectName_within : Yields G objectName fun name => ∀ ident ∈ name, ident.Within G :=
  identifier_within.bind fun _ hfirst => identifier_within.many.bind fun _ hrest =>
    .pure (List.forall_mem_cons.mpr ⟨hfirst, hrest⟩)

lemma optionalAlias_within {reserved : List String} :
    Yields G (optionalAlias reserved) fun found => ∀ ident ∈ found, ident.Within G := by
  refine .seq fun afterAs => Yields.peek.bind fun t ht => ?_
  extract_lets -underBinder taken missing
  have htaken (ident : Ident) (h : ident.Within G) :
      Yields G (taken ident) fun found => ∀ ident ∈ found, ident.Within G :=
    .seq fun _ => .pure (by simpa using h)
  have hmissing : Yields G missing fun found => ∀ ident ∈ found, ident.Within G :=
    .ite (.seq fun _ => .expected) (.pure (by simp))
  split
  · exact .ite (htaken _ (wordIdent_within ht)) hmissing
  · exact htaken _ stringIdent_within
  · exact htaken _ stringIdent_within
  · exact hmissing

/-! ### Asterisks and arguments -/

/-- The place of an asterisk and all names stand in the region. -/
def Starred.Within (G : Region) : Starred → Prop
  | .term t => t.Within G
  | .all place => place ∈ G
  | .allOf name => ∀ ident ∈ name, ident.Within G

/-- A name to which one more part is added. -/
lemma within_some_cons {ident : Ident} {parts : List Ident} (hident : ident.Within G)
    (h : ∀ ident ∈ parts, ident.Within G) :
    ∀ parts' ∈ some (ident :: parts), ∀ ident ∈ parts', ident.Within G := by
  rintro _ ⟨⟩
  exact List.forall_mem_cons.mpr ⟨hident, h⟩

lemma partBeforeAsterisk_within {parts : List Ident} (h : ∀ ident ∈ parts, ident.Within G) :
    Yields G (partBeforeAsterisk parts) fun found =>
      ∀ parts ∈ found, ∀ ident ∈ parts, ident.Within G := by
  refine .seq fun _ => .seq fun _ => .ite ?_ (.pure (by simp))
  refine .seq fun _ => Yields.next.bind fun t ht => ?_
  split
  · exact .pure (within_some_cons (wordIdent_within ht) h)
  · exact .pure (within_some_cons stringIdent_within h)
  · exact .expected

lemma nameBeforeAsterisk_within {first : Ident} (h : first.Within G) :
    Yields G (nameBeforeAsterisk first) fun found => ∀ starred ∈ found, starred.Within G := by
  have hparts : Yields G (repeatedly partBeforeAsterisk [first]) fun parts =>
      ∀ ident ∈ parts, ident.Within G :=
    .repeatedly (fun _ => partBeforeAsterisk_within) (by simpa using h)
  refine hparts.bind fun parts hparts => .seq fun _ => .ite (.seq fun _ => .pure ?_)
    (.pure (by simp))
  rintro _ ⟨⟩
  simpa [Starred.Within] using hparts

lemma asterisk_within :
    Yields G asterisk fun found => ∀ starred ∈ found, starred.Within G := by
  refine Yields.next.bind fun t ht => ?_
  split
  · exact .pure (by simpa [Starred.Within] using ht)
  · exact nameBeforeAsterisk_within (wordIdent_within ht)
  · exact nameBeforeAsterisk_within stringIdent_within
  · exact .pure (by simp)

section Inner

variable {inner : Inner} (hinner : ∀ bound, Yields G (inner.termAbove bound) (·.Within G))

include hinner

lemma starred_within : Yields G (starred inner) (·.Within G) := by
  refine asterisk_within.lookFor.bind fun found hfound => ?_
  split
  · exact .pure (hfound _ rfl)
  · exact (hinner 0).bind fun term hterm => .pure hterm

lemma plainArgument_within : Yields G (plainArgument inner) (·.Within G) := by
  refine (starred_within hinner).bind fun found hfound => ?_
  split
  · exact .pure (.term hfound)
  · exact .pure .wildcard
  · exact .pure (.qualifiedWildcard hfound)

omit hinner in
lemma namedArgument_within {name : String} :
    Yields G (namedArgument inner name) (·.Within G) :=
  .seq fun _ => .seq fun _ => .pure (.named _)

omit hinner in
/-- An argument that is read in a second way where the first one fails. -/
lemma maybe_or_within {p q : Parser Argument} (hp : Yields G p (·.Within G))
    (hq : Yields G q (·.Within G)) :
    Yields G (do
      match ← maybe p with
      | some found => return found
      | none => q) (·.Within G) := by
  refine hp.maybe.bind fun found hfound => ?_
  split
  · exact .pure (hfound _ rfl)
  · exact hq

lemma termArgument_within : Yields G (termArgument inner) (·.Within G) := by
  refine .seq fun ahead => ?_
  split
  · exact (hinner 0).bind fun _ hterm => maybe_or_within namedArgument_within (.pure (.term hterm))
  · exact maybe_or_within (.seq fun _ => namedArgument_within) (plainArgument_within hinner)

lemma argument_within : Yields G (argument inner) (·.Within G) :=
  .seq fun _ => .ite (termArgument_within hinner)
    (maybe_or_within (.seq fun _ => namedArgument_within) (plainArgument_within hinner))

lemma argumentList_within :
    Yields G (argumentList inner) fun list => ∀ arg ∈ list.args, arg.Within G := by
  refine .seq fun first => .seq fun closed => .ite (.pure (by simp)) ?_
  refine .seq fun quantifier => (argument_within hinner).commaSeparated.bind fun args hargs => ?_
  refine .seq fun inAnsi => ?_
  extract_lets -underBinder rest
  have hrest (nullTreatment : Option String) :
      Yields G (rest nullTreatment) fun list => ∀ arg ∈ list.args, arg.Within G :=
    .seq fun _ => .seq fun _ => .pure hargs
  exact .ite (.seq fun _ => hrest _) (.seq fun _ => hrest _)

omit hinner in
/-- A call has the name that was read before it, and arguments as they are read. -/
lemma callAfter_calls {name : List Ident} {braced : Bool} {such : List Argument → Prop}
    (hlist : Yields G (argumentList inner) fun list => such list.args) :
    Yields G (callAfter inner name braced) fun t =>
      ∃ shape args, t = .call name shape args ∧ such args := by
  refine .seq fun _ => hlist.bind fun first hfirst => .seq fun parametric => ?_
  extract_lets -underBinder rest
  have hrest (list : ArgumentList) (hargs : such list.args) :
      Yields G (rest list) fun t => ∃ shape args, t = .call name shape args ∧ such args := by
    refine .seq fun withinGroup => .seq fun filter => ?_
    extract_lets -underBinder last
    have hlast (nullTreatment : Option String) :
        Yields G (last nullTreatment) fun t =>
          ∃ shape args, t = .call name shape args ∧ such args :=
      .seq fun _ => .pure ⟨_, _, rfl, hargs⟩
    exact .ite (.seq fun _ => hlast _) (.seq fun _ => hlast _)
  exact .ite (hlist.bind fun list hargs => hrest list hargs) (hrest first hfirst)

lemma callAfter_formed {name : List Ident} {braced : Bool} (h : ∀ ident ∈ name, ident.Within G) :
    Yields G (callAfter inner name braced) (·.Formed G) := by
  have hcalls : Yields G (callAfter inner name braced) fun t =>
      ∃ shape args, t = .call name shape args ∧ ∀ arg ∈ args, arg.Within G :=
    callAfter_calls (argumentList_within hinner)
  refine hcalls.mono ?_
  rintro _ ⟨shape, args, rfl, hargs⟩
  exact .call shape h hargs

/-! ### Forms -/

omit hinner in
lemma caseForm_formed : Yields G (caseForm inner) (·.Formed G) := by
  refine .seq fun first => ?_
  extract_lets -underBinder rest
  have hrest (subject : String) : Yields G (rest subject) (·.Formed G) :=
    .seq fun _ => .seq fun _ => .seq fun _ => .pure (.other _)
  exact .ite (.seq fun _ => hrest _) (.seq fun _ => .seq fun _ => .seq fun _ => hrest _)

omit hinner in
lemma form_formed {name : String} {inside : Parser String} :
    Yields G (form name inside) (·.Formed G) :=
  .seq fun _ => .pure (.other _)

omit hinner in
lemma existsForm_formed {words : String} : Yields G (existsForm inner words) (·.Formed G) :=
  .seq fun _ => .pure (.aboutSubquery _)

lemma positionForm_formed {atMembership : Nat} {name : Ident} (h : name.Within G) :
    Yields G (positionForm inner atMembership name) (·.Formed G) := by
  refine form_formed.maybe.bind fun place hplace => ?_
  split
  · exact .pure (hplace _ rfl)
  · exact callAfter_formed hinner (by simpa using h)

omit hinner in
lemma arrayForm_formed {name : String} : Yields G (arrayForm inner name) (·.Formed G) :=
  .seq fun _ => .seq fun _ => .pure (.other _)

omit hinner in
lemma matchForm_formed : Yields G matchForm (·.Formed G) :=
  .seq fun _ => .seq fun _ => .seq fun _ => .pure (.other _)

omit hinner in
lemma recordForm_formed {place : Location} : Yields G (recordForm inner place) (·.Formed G) :=
  .seq fun _ => .seq fun (_, _) => .ite (.seq fun _ => .failAt)
    (.seq fun _ => .pure (.other _))

lemma bracesForm_formed {opening : Located} :
    Yields G (bracesForm inner opening) (·.Formed G) := by
  have hcall : Yields G (do
      expectKeyword "FN"
      callAfter inner (← objectName) true) (·.Formed G) :=
    .seq fun _ => objectName_within.bind fun _ hname => callAfter_formed hinner hname
  refine hcall.maybe.bind fun call hcall => ?_
  split
  · exact .seq fun _ => .pure (hcall _ rfl)
  · exact .seq fun _ => .ite (.seq fun _ => .pure (.other _)) .expected

omit hinner in
lemma mapForm_formed : Yields G (mapForm inner) (·.Formed G) :=
  .seq fun _ => .seq fun _ => .pure (.other _)

lemma momentForm_formed {name : Ident} (h : name.Within G) :
    Yields G (momentForm inner name) (·.Formed G) :=
  .seq fun _ => .ite
    ((argumentList_within hinner).bind fun _ hargs => .pure (.call _ (by simpa using h) hargs))
    (.pure (.call _ (by simpa using h) (by simp)))

omit hinner in
lemma queryArrayForm_formed {name : Ident} (h : name.Within G) :
    Yields G (queryArrayForm inner name) (·.Formed G) :=
  .seq fun _ => .pure (.call _ (by simpa using h) (by simp))

omit hinner in
lemma interval_text {operand : Parser Term} : Yields G (interval inner operand) Term.IsText := by
  refine .seq fun unitNeeded => ?_
  extract_lets -underBinder rest
  have hrest (value : Term) : Yields G (rest value) Term.IsText :=
    .seq fun _ => .ite (.seq fun _ => .pure ⟨_, rfl⟩)
      (.ite .failAt (.seq fun _ => .pure ⟨_, rfl⟩))
  exact .ite (.seq fun _ => hrest _) (.seq fun _ => hrest _)

omit hinner in
lemma interval_formed {operand : Parser Term} :
    Yields G (interval inner operand) (·.Formed G) :=
  interval_text.mono fun _ => Term.IsText.formed

/-! ### Operands -/

omit hinner in
lemma nextPart_within {parts : List Ident} (h : ∀ ident ∈ parts, ident.Within G) :
    Yields G (nextPart parts) fun found =>
      ∀ parts ∈ found, ∀ ident ∈ parts, ident.Within G := by
  refine .seq fun _ => .ite (Yields.next.bind fun t ht => ?_) (.pure (by simp))
  split
  · exact .pure (within_some_cons (wordIdent_within ht) h)
  · exact .pure (within_some_cons stringIdent_within h)
  · exact .expected
  · exact .expected

lemma plainWord_within {word : Ident} (h : word.Within G) :
    Yields G (plainWord inner word) (·.Within G) := by
  have hparts : Yields G (repeatedly (fun parts => do
      if ← asteriskEndsName then return none else nextPart parts) [word]) fun parts =>
        ∀ ident ∈ parts, ident.Within G :=
    .repeatedly (fun _ hparts => .seq fun _ => .ite (.pure (by simp)) (nextPart_within hparts))
      (by simpa using h)
  refine .seq fun t => ?_
  split
  iterate 2
    · refine hparts.bind fun parts hparts => ?_
      have hname : ∀ ident ∈ parts.reverse, ident.Within G := by simpa using hparts
      have hcall : Yields G (callAfter inner parts.reverse false) (·.Within G) :=
        (callAfter_formed hinner hname).mono fun _ h => h.within
      exact .seq fun _ => .ite (.seq fun _ => .pure (.other _)) <|
        .seq fun _ => .ite hcall (.pure (.path hname))
  iterate 3
    · exact .ite (.seq fun _ => .pure (.other _)) (.pure (.name h))
  · exact .pure (.name h)

lemma keywordForm_formed {operand : Parser Term} {t : Located} {word : String} {name : Ident}
    (h : name.Within G) :
    Yields G (keywordForm inner operand t word name) fun found => ∀ term ∈ found, term.Formed G := by
  have hbare : (bareCall name).Formed G := .call _ (by simpa using h) (by simp)
  refine .seq fun dialect => .seq fun parenthesis => ?_
  split
  iterate 3
    · exact .just ⟨.literal _, id⟩
  iterate 4
    · exact .ite (.just hbare) .none
  iterate 5
    · exact (momentForm_formed hinner h).some
  · exact caseForm_formed.some
  · exact form_formed.some
  · exact .ite form_formed.some .none
  iterate 3
    · exact form_formed.some
  · exact existsForm_formed.some
  · exact form_formed.some
  iterate 2
    · exact form_formed.some
  · exact .ite (.seq fun _ => (positionForm_formed hinner h).some) .none
  iterate 3
    · exact form_formed.some
  · exact interval_formed.some
  · exact .seq fun _ => .ite arrayForm_formed.some (.ite (queryArrayForm_formed h).some .none)
  · exact .seq fun _ => .ite existsForm_formed.some
      (.seq fun _ => (hinner _).bind fun _ hterm => .just (.unary _ hterm))
  · exact .ite matchForm_formed.some .none
  · exact .ite recordForm_formed.some .none
  · exact .seq fun _ => .ite (.seq fun _ => .seq fun _ => .just (.other _)) .none
  · exact .seq fun _ => .ite mapForm_formed.some .none
  · exact .none

/-- The term of an operand stands in the region. -/
def Collatable.Within (G : Region) (found : Collatable) : Prop :=
  found.1.Within G

lemma bareWordOperand_within {operand : Parser Term} {t : Located} {word : String} {name : Ident}
    (h : name.Within G) :
    Yields G (bareWordOperand inner operand t word name) (Collatable.Within G) := by
  refine (keywordForm_formed hinner h).attempt.bind fun form hform => ?_
  split
  · exact .pure (hform _ rfl _ rfl).within
  · exact (plainWord_within hinner h).bind fun _ hterm => .pure hterm
  · refine .ite .failWith ((plainWord_within hinner h).attempt.bind fun found hfound => ?_)
    split
    · exact .pure (hfound _ rfl)
    · exact .failWith

omit hinner in
lemma typedLiteral_text {operand : Parser Term} :
    Yields G (typedLiteral inner operand) Term.IsText := by
  refine .seq fun type => ?_
  split
  · exact interval_text
  · exact .fail
  · exact .seq fun _ => .pure ⟨_, rfl⟩

omit hinner in
/-- A parameter is kept by its text. -/
lemma namedParameter_other {mark : String} :
    Yields G (namedParameter mark) fun value => ∃ text, value = .other text := by
  refine .seq fun t => ?_
  split
  · exact .pure ⟨_, rfl⟩
  · exact .pure ⟨_, rfl⟩
  · exact .expected

lemma parenthesesOperand_formed : Yields G (parenthesesOperand inner) (·.Formed G) := by
  refine .seq fun isQuery => ?_
  extract_lets -underBinder rest
  have hrest (found : Term) (h : found.Formed G) : Yields G (rest found) (·.Formed G) := by
    refine .seq fun _ => .seq fun _ => .ite (.seq fun t => ?_) (.pure h)
    split
    · exact .pure (.other _)
    · exact .failAt
  have hterm : Yields G inner.term (·.Within G) := hinner 0
  refine .ite (.seq fun _ => .bind (.pure (.subquery _)) hrest) ?_
  refine hterm.commaSeparated.bind fun terms hterms => ?_
  split
  · exact .bind (.pure (.nested (hterms _ (by simp)))) hrest
  · exact .bind (.pure (.other _)) hrest

lemma signOperand_formed {t : Located} {spelling : String} :
    Yields G (signOperand inner t spelling) (·.Formed G) := by
  refine .seq fun inPostgres => ?_
  extract_lets unary
  have hunary (op : UnaryOperator) (group : OperatorGroup) :
      Yields G (unary op group) (·.Formed G) :=
    .seq fun _ => (hinner _).bind fun _ hterm => .pure (.unary _ hterm)
  split
  · exact arrayForm_formed
  · exact hunary _ _
  · exact hunary _ _
  · exact parenthesesOperand_formed hinner
  · exact bracesForm_formed hinner
  · split
    · exact hunary _ _
    · refine .ite (namedParameter_other.bind fun value hvalue => .pure ?_) .expected
      obtain ⟨text, rfl⟩ := hvalue
      exact ⟨.literal _, id⟩

lemma operandStart_within {operand : Parser Term} :
    Yields G (operandStart inner operand) (Collatable.Within G) := by
  refine typedLiteral_text.maybe.bind fun typed htyped => ?_
  split
  · exact .pure (htyped _ rfl).within
  · refine Yields.peek.bind fun t ht => ?_
    split
    · refine .seq fun _ => ?_
      split
      · exact bareWordOperand_within hinner (wordIdent_within ht)
      · exact (plainWord_within hinner (wordIdent_within ht)).bind fun _ hterm => .pure hterm
    · exact .seq fun _ => (signOperand_formed hinner).bind fun _ hterm => .pure hterm.within
    · exact .seq fun _ => .ite (.seq fun _ => .pure (.literal _)) (.seq fun _ => .expected)
    iterate 3
      · exact .seq fun _ => .pure (.literal _)
    · exact .seq fun _ => .expected

lemma operandWithin_within (depth : Nat) : Yields G (operandWithin inner depth) (·.Within G) := by
  cases depth with
  | zero => exact .failWith
  | succ depth =>
    refine (operandStart_within hinner).bind fun start hstart => ?_
    obtain ⟨start, collatable⟩ := start
    dsimp -zeta only
    extract_lets -underBinder rest
    have hrest (collated : Bool) : Yields G (rest collated) (·.Within G) :=
      .ite (.seq fun _ => .pure (.other _)) (.pure hstart)
    exact .ite (.seq fun _ => hrest _) (.seq fun _ => hrest _)

lemma operand_within : Yields G (operand inner) (·.Within G) :=
  .seq fun _ => operandWithin_within hinner _

end Inner

/-! ### Operators -/

section Operators

variable {inner : Inner} {R : Term → Prop} {left : Term}

lemma quantified_text {op : Operator} {place : Location} {word : String} {binding : Nat} :
    Yields G (quantified inner left op place word binding) Term.IsText := by
  refine .seq fun parenthesis => ?_
  extract_lets rest start
  have hrest (right : Term) : Yields G (rest right) Term.IsText :=
    .ite (.pure ⟨_, rfl⟩) (.seq fun _ => .pure ⟨_, rfl⟩)
  have hstart : Yields G (start ()) Term.IsText :=
    .seq fun _ => .ite (.seq fun _ => .seq fun _ => hrest _)
      (.seq fun _ => .seq fun _ => .seq fun _ => .seq fun _ => hrest _)
  exact .ite hstart (.seq fun _ => hstart)

lemma isForm_extends : Yields G (isForm inner left) (Term.Extends R left) := by
  unfold isForm
  extract_lets said
  have hsaid (words : String) : Yields G (said words) (Term.Extends R left) := .pure (.other _)
  refine .seq fun _ => .ite (.pure .isNull) <| .seq fun _ => .ite (.pure .isNotNull) <|
    .seq fun _ => .ite (hsaid _) <| .seq fun _ => .ite (hsaid _) <| .seq fun _ => .ite (hsaid _) <|
    .seq fun _ => .ite (hsaid _) <| .seq fun _ => .ite (hsaid _) <| .seq fun _ => .ite (hsaid _) <|
    .seq fun _ => .ite (.seq fun _ => hsaid _) <| .seq fun _ => .ite (.seq fun _ => hsaid _) <|
    .seq fun _ => .expected

lemma otherPattern_text {negated : Bool} {words : String} :
    Yields G (otherPattern inner left negated words) Term.IsText :=
  .seq fun _ => .seq fun _ => .seq fun _ => .pure ⟨_, rfl⟩

lemma subscripted_text : Yields G (subscripted inner left) Term.IsText :=
  .seq fun _ => .ite (.seq fun _ => .pure ⟨_, rfl⟩)
    (.seq fun _ => .seq fun _ => .pure ⟨_, rfl⟩)

lemma otherOperator_extends {t : Located} {binding : Nat} :
    Yields G (otherOperator inner left t binding) (Term.Extends R left) := by
  unfold otherOperator
  extract_lets useless
  have huseless : Yields G useless (Term.Extends R left) := .failAt
  split
  · exact .seq fun _ => .pure (.other _)
  · exact .seq fun _ => .ite (.pure (.unary _)) huseless
  · exact subscripted_text.mono fun _ => Term.IsText.extends
  · split
    · exact isForm_extends
    · exact .seq fun _ => .seq fun _ => .pure (.other _)
    · exact huseless

variable (hinner : ∀ bound, Yields G (inner.termAbove bound) R)

include hinner

lemma membership_extends {negated : Bool} :
    Yields G (membership inner left negated) (Term.Extends R left) := by
  have hterm : Yields G inner.term R := hinner 0
  exact .seq fun _ => .ite (.seq fun _ => .pure (.other _)) <| .parenthesized <|
    .seq fun _ => .ite (.seq fun _ => .pure (.aboutSubquery _)) <| .seq fun _ => .ite
      (hterm.commaSeparatedUpTo.bind fun _ hitems => .pure (.inList _ hitems))
      (hterm.commaSeparated.bind fun _ hitems => .pure (.inList _ hitems))

lemma negatable_extends : Yields G (negatable inner left) (Term.Extends R left) := by
  refine .seq fun negated => .seq fun word => ?_
  split
  · exact .seq fun _ => .seq fun _ => .pure (.other _)
  · have hpattern {words : String} :
        Yields G (otherPattern inner left negated words) (Term.Extends R left) :=
      otherPattern_text.mono fun _ => Term.IsText.extends
    refine .seq fun _ => .ite (membership_extends hinner) <| .seq fun _ => .ite ?_ <|
      .seq fun _ => .ite ?_ <| .seq fun _ => .ite (.seq fun _ => hpattern) <|
      .seq fun _ => .ite hpattern (.seq fun _ => .expected)
    · exact .seq fun _ => (hinner _).bind fun _ hlow => .seq fun _ => .seq fun _ =>
        (hinner _).bind fun _ hhigh => .pure (.between _ hlow hhigh)
    · exact .seq fun _ => .seq fun _ => (hinner _).bind fun _ hpattern =>
        .seq fun _ => .pure (.like _ _ _ hpattern)

/-- **Operators.** What an operator makes of a term extends it. -/
lemma operatorAfter_extends {binding : Nat} :
    Yields G (operatorAfter inner left binding) (Term.Extends R left) := by
  have hterm : Yields G inner.term R := hinner 0
  refine .seq fun t => .seq fun _ =>
    .ite (hterm.bind fun _ hright => .pure (.binary _ hright)) <|
    .ite (negatable_extends hinner) <| .seq fun _ => .seq fun op => ?_
  split
  · exact otherOperator_extends
  · refine .seq fun word => ?_
    split
    · exact quantified_text.mono fun _ => Term.IsText.extends
    · exact (hinner _).bind fun _ hright => .pure (.binary _ hright)

lemma nextOperator_extends {bound : Nat} :
    Yields G (nextOperator inner bound left) fun found =>
      ∀ term ∈ found, Term.Extends R left term :=
  .seq fun _ => .ite (operatorAfter_extends hinner).some .none

end Operators

/-- **Terms.** When the terms of the level inside stand in the region, so do those around them. -/
lemma termAbove_within {inner : Inner}
    (hinner : ∀ bound, Yields G (inner.termAbove bound) (·.Within G)) (bound : Nat) :
    Yields G (termAbove inner bound) (·.Within G) :=
  (operand_within hinner).bind fun _ hoperand =>
    .repeatedly (fun _ hleft => (nextOperator_extends hinner).mono fun _ hfound term hterm =>
      (hfound term hterm).within hleft) hoperand

end Grammar

end SelectBinding.Sql
