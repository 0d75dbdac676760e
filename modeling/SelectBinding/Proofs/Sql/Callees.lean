import SelectBinding.Proofs.Place.Queries
import SelectBinding.Proofs.Sql.Shapes
import SelectBinding.Proofs.Sql.Statements

/-!
Whose calls are read.

A statement may be read as having a call for its first column. When the tokens after `SELECT` are a
word, points and more words, these words begin the name of the function, whatever comes after them:
a name is read as far as it goes, and what an operator makes of a call is no call any more. So the
words count among the names that must not be reserved.
-/

namespace SelectBinding.Sql

/-- The name of the function that the term is a call of, if it is a call. Parentheses around it do
not count. -/
def Term.callee? : Term → Option (List Ident)
  | .call callee _ _ => some callee
  | .nested t => t.callee?
  | _ => none

/-- If the term is a call, the name of its function begins with these parts. -/
def Term.CallBegins (idents : List Ident) (t : Term) : Prop :=
  ∀ name ∈ t.callee?, idents <+: name

/-- If the item is a call without an alias, the name of its function begins with these parts. -/
def SelectItem.CallBegins (idents : List Ident) : SelectItem → Prop
  | .term t => t.CallBegins idents
  | _ => True

/-- If the first item is a call, the name of its function begins with these parts. -/
def Select.CallBegins (idents : List Ident) (s : Select) : Prop :=
  ∃ first more, s.items = first :: more ∧ first.CallBegins idents

/-- If the body is a select, its first item is such. -/
def QueryBody.CallBegins (idents : List Ident) (body : QueryBody) : Prop :=
  ∀ s, body = .select s → s.CallBegins idents

/-- If the statement is a query about a select, its first item is such. -/
def StatementTree.CallBegins (idents : List Ident) (statement : StatementTree) : Prop :=
  ∀ q, statement = .query q → q.body.CallBegins idents

lemma Term.IsText.callBegins {idents : List Ident} {t : Term} (h : t.IsText) :
    t.CallBegins idents := by
  obtain ⟨text, rfl⟩ := h
  simp [CallBegins, callee?]

/-- An operator leaves no call. -/
lemma Term.Extends.callBegins {such : Term → Prop} {left t : Term} {idents : List Ident}
    (h : Term.Extends such left t) : t.CallBegins idents := by
  cases h <;> simp [CallBegins, callee?]

namespace Grammar

open Sql.Parser

/-! ### Reading certain tokens -/

/-- Whatever the parser reads from these tokens satisfies `post`. -/
def Reads {α : Type} (p : Parser α) (ls : List Located) (post : α → Prop) : Prop :=
  ∀ a rest, p ansi ls = .ok (a, rest) → post a

namespace Reads

variable {α β : Type} {p : Parser α} {f : α → Parser β} {ls ls' : List Located}
  {post : α → Prop} {post' : β → Prop}

lemma of_yields (h : Yields everywhere p post) : Reads p ls post :=
  fun a rest hrun => h ansi ls a rest (fun _ _ => trivial) hrun

lemma pure {a : α} (h : post a) : Reads (pure a) ls post := by
  rintro _ _ ⟨⟩
  exact h

/-- What is read first is known, and so are the tokens after it. -/
lemma step {a : α} (h : p ansi ls = .ok (a, ls')) (hf : Reads (f a) ls' post') :
    Reads (p >>= f) ls post' := by
  intro b rest hrun
  rw [run_bind, h] at hrun
  exact hf b rest hrun

/-- What is read first is such, and the tokens after it do not matter. -/
lemma bind (h : Reads p ls post) (hf : ∀ a, post a → Yields everywhere (f a) post') :
    Reads (p >>= f) ls post' := by
  intro b rest hrun
  rw [run_bind] at hrun
  split at hrun
  · next a left ha => exact of_yields (hf a (h a left ha)) b rest hrun
  · cases hrun

/-- What is tried first either is such, or nothing has been read. -/
lemma tried {f : Option α → Parser β} (hsome : Reads p ls post)
    (hf : ∀ a, post a → Yields everywhere (f (some a)) post') (hnone : Reads (f none) ls post') :
    Reads (maybe p >>= f) ls post' := by
  intro b rest hrun
  simp only [run_bind, maybe] at hrun
  cases hp : p ansi ls with
  | ok found =>
    obtain ⟨a, left⟩ := found
    simp only [hp] at hrun
    exact of_yields (hf a (hsome a left hp)) b rest hrun
  | error stop =>
    simp only [hp] at hrun
    split at hrun
    · next hfound =>
      split at hfound
      · cases hfound
      · obtain ⟨rfl, rfl⟩ := Prod.mk.inj (Except.ok.inj hfound)
        exact hnone b rest hrun
    · cases hrun

/-- What is looked for first either is such, or nothing has been read. -/
lemma sought {p : Parser (Option α)} {f : Option α → Parser β}
    (hsome : Yields everywhere p fun found => ∀ a ∈ found, post a)
    (hf : ∀ a, post a → Yields everywhere (f (some a)) post') (hnone : Reads (f none) ls post') :
    Reads (lookFor p >>= f) ls post' := by
  intro b rest hrun
  simp only [run_bind, lookFor] at hrun
  cases hp : p ansi ls with
  | ok found =>
    obtain ⟨_ | a, left⟩ := found
    · simp only [hp] at hrun
      exact hnone b rest hrun
    · simp only [hp] at hrun
      exact of_yields (hf a (of_yields hsome _ left hp a rfl)) b rest hrun
  | error stop =>
    simp only [hp] at hrun
    cases hrun

end Reads

/-! ### Names -/

section Names

variable {inner : Inner} {idents : List Ident} {ls : List Located}

/-- The parts that were found stay in front. -/
lemma plainPart_keeps (found found' : List Ident) (h : found <:+ found') :
    Yields everywhere (plainPart found') fun next => ∀ parts ∈ next, found <:+ parts := by
  have hmore (ident : Ident) : ∀ parts ∈ some (ident :: found'), found <:+ parts := by
    rintro _ ⟨⟩
    exact h.trans (List.suffix_cons _ _)
  refine .seq fun _ => .ite .none (.seq fun _ => .ite (.seq fun t => ?_) .none)
  split
  · exact .pure (hmore _)
  · exact .pure (hmore _)
  · exact .expected
  · exact .expected

/-- As many words as there are with points before them are parts of the name. -/
lemma Pointed.reads (h : Pointed idents ls) (rest : List Located) {limit : Nat}
    (hlimit : ls.length ≤ limit) (found : List Ident) :
    Reads (steps plainPart limit found) (ls ++ rest) (idents.reverse ++ found <:+ ·) := by
  induction h generalizing limit found with
  | nil =>
    exact .of_yields (.steps (plainPart_keeps found) limit (List.suffix_refl found))
  | cons hdot hl hmore ih =>
    obtain ⟨limit, rfl⟩ : ∃ n, limit = n + 1 := ⟨limit - 1, by simp at hlimit; omega⟩
    simp only [List.reverse_cons, List.append_assoc, List.singleton_append]
    exact .step (plainPart_word hdot hl) (ih (by simp at hlimit; omega) _)

/-- The words of a name begin what is read as the name of a function. -/
lemma plainWord_callBegins (inner : Inner) (word : Ident) (h : Pointed idents ls)
    (rest : List Located) :
    Reads (plainWord inner word) (ls ++ rest) (·.CallBegins (word :: idents)) := by
  have hother {t : Term} (ht : t.callee? = none) : t.CallBegins (word :: idents) := by
    simp [Term.CallBegins, ht]
  have hcall {name : List Ident} (hname : word :: idents <+: name) :
      Yields everywhere (callAfter inner name false) (·.CallBegins (word :: idents)) := by
    have hcalls : Yields everywhere (callAfter inner name false) fun t =>
        ∃ shape args, t = .call name shape args ∧ True := callAfter_calls .anything
    refine hcalls.mono ?_
    rintro _ ⟨shape, args, rfl, -⟩
    simpa [Term.CallBegins, Term.callee?] using hname
  have hparts : Reads (repeatedly plainPart [word]) (ls ++ rest)
      ((word :: idents).reverse <:+ ·) := by
    rw [List.reverse_cons]
    exact .step run_remaining (h.reads rest (by simp; omega) [word])
  refine .step run_peek ?_
  split
  iterate 2
    · refine Reads.bind hparts fun parts hparts => .seq fun _ => .ite ?_ (.seq fun _ => .ite ?_ ?_)
      · exact .seq fun _ => .pure (hother rfl)
      · exact hcall (List.reverse_suffix.mp (by simpa using hparts))
      · exact .pure (hother rfl)
  iterate 3
    · exact .of_yields (.ite (.seq fun _ => .pure (hother rfl)) (.pure (hother rfl)))
  · exact .pure (hother rfl)

end Names

/-! ### Terms -/

section Terms

variable {inner : Inner} {idents : List Ident} {l : Located} {ls : List Located} {value : String}

/-- An operand that begins with a bare word which begins no form. -/
lemma bareWordOperand_callBegins {operand : Parser Term} {word : String} {name : Ident}
    (hword : word ∉ callForms) (h : Pointed idents ls) (rest : List Located) :
    Reads (bareWordOperand inner operand l word name) (ls ++ rest)
      (·.1.CallBegins (name :: idents)) := by
  have hnone : attempt (keywordForm inner operand l word name) ansi (ls ++ rest) =
      .ok (.ok none, ls ++ rest) := by
    simp only [attempt, keywordForm_none l name hword]
  exact .step hnone (.bind (plainWord_callBegins inner name h rest) fun _ hterm => .pure hterm)

lemma operandStart_callBegins {operand : Parser Term} (hl : l.token = .word value none)
    (hform : Token.isOneOf callForms (.word value none) = false) (h : Pointed idents ls)
    (rest : List Located) :
    Reads (operandStart inner operand) (l :: (ls ++ rest))
      (·.1.CallBegins (wordIdent value none l.place :: idents)) := by
  have hkeyword : l.token.keyword? = some (Token.capitalized value) := by rw [hl]; rfl
  have hword : Token.capitalized value ∉ callForms := by
    simpa [Token.isOneOf, Token.keyword?] using hform
  refine .tried (.of_yields typedLiteral_text) (fun _ htext => .pure htext.callBegins)
    (.step run_peek ?_)
  simp only [front_cons, hl]
  refine .step run_next ?_
  rw [← hl, hkeyword]
  exact bareWordOperand_callBegins hword h rest

lemma operand_callBegins (hl : l.token = .word value none)
    (hform : Token.isOneOf callForms (.word value none) = false) (h : Pointed idents ls)
    (rest : List Located) :
    Reads (operand inner) (l :: (ls ++ rest))
      (·.CallBegins (wordIdent value none l.place :: idents)) := by
  refine .step run_remaining
    (.bind (operandStart_callBegins hl hform h rest) fun start hstart => ?_)
  obtain ⟨start, collatable⟩ := start
  dsimp -zeta only
  extract_lets -underBinder last
  have hlast (collated : Bool) :
      Yields everywhere (last collated) (·.CallBegins (wordIdent value none l.place :: idents)) :=
    .ite (.seq fun _ => .pure (Term.IsText.callBegins ⟨_, rfl⟩)) (.pure hstart)
  exact .ite (.seq fun _ => hlast _) (.seq fun _ => hlast _)

/-- **Terms.** If a term that begins with the words of a name is a call, these begin the name of its
function. -/
lemma term_callBegins (depth : Nat) (hl : l.token = .word value none)
    (hform : Token.isOneOf callForms (.word value none) = false) (h : Pointed idents ls)
    (rest : List Located) :
    Reads (level depth).term (l :: (ls ++ rest))
      (·.CallBegins (wordIdent value none l.place :: idents)) := by
  cases depth with
  | zero => exact .of_yields .failWith
  | succ depth =>
    have hnext {left : Term} : Yields everywhere (nextOperator (level depth) 0 left) fun found =>
        ∀ t ∈ found, Term.Extends (fun _ => True) left t :=
      nextOperator_extends fun _ => .anything
    exact .bind (operand_callBegins hl hform h rest) fun left hleft =>
      .repeatedly (fun _ _ => hnext.mono fun _ hfound t ht => (hfound t ht).callBegins) hleft

end Terms

/-! ### Selects -/

/-- An asterisk is no term. -/
lemma asterisk_noTerm :
    Yields everywhere asterisk fun found => ∀ starred ∈ found, ∀ t, starred ≠ .term t := by
  have hname (first : Ident) : Yields everywhere (nameBeforeAsterisk first)
      fun found => ∀ starred ∈ found, ∀ t, starred ≠ .term t :=
    .seq fun _ => .seq fun _ => .ite (.seq fun _ => .just (by simp)) .none
  refine .seq fun t => ?_
  split
  · exact .just (by simp)
  · exact hname _
  · exact hname _
  · exact .none

section Selects

variable {inner : Inner} {idents : List Ident} {ls : List Located}

lemma selectItem_callBegins (h : Reads inner.term ls (·.CallBegins idents)) :
    Reads (selectItem inner) ls (·.CallBegins idents) := by
  have hstarred : Reads (starred inner) ls fun found =>
      ∀ t, found = .term t → t.CallBegins idents := by
    refine .sought asterisk_noTerm (fun starred hstarred => .pure fun t ht => ?_)
      (h.bind fun t ht => .pure ?_)
    · exact absurd ht (hstarred t)
    · rintro _ ⟨⟩
      exact ht
  refine hstarred.bind fun found hfound => ?_
  split
  · exact .seq fun _ => .pure trivial
  · exact .seq fun _ => .pure trivial
  · refine .ite (.seq fun _ => .failAt) (.seq fun given => ?_)
    split
    · exact .pure trivial
    · exact .pure (hfound _ rfl)

lemma select_callBegins {l : Located} (hl : l.token = kw "SELECT")
    (hfirst : (front ls).token.isOneOf ["ALL", "DISTINCT", "TOP"] = false)
    (h : Reads inner.term ls (·.CallBegins idents)) :
    Reads (select inner) (l :: ls) (·.CallBegins idents) := by
  have hselect : (kw "SELECT").isKeyword "SELECT" = true := rfl
  have htop : (front ls).token.isKeyword "TOP" = false :=
    isKeyword_of_not_isOneOf hfirst (by decide)
  have hitems : Reads (commaSeparated (selectItem inner)) ls fun items =>
      ∃ first more, items = first :: more ∧ first.CallBegins idents :=
    (selectItem_callBegins h).bind fun first hfirst => .seq fun more =>
      .pure ⟨first, more, rfl, hfirst⟩
  have hexpect : expectKeyword "SELECT" ansi (l :: ls) = .ok ((), ls) := by
    simp [run_expectKeyword, hl, hselect]
  refine .step run_peek (.step hexpect (.step (distinctness_none hfirst)
    (.step (run_afterKeyword_of_not htop) (hitems.bind fun items hitems => .seq fun _ =>
      .seq fun _ => ?_))))
  extract_lets -underBinder afterSources
  have hsources (sources : List FromItem) :
      Yields everywhere (afterSources sources) (·.CallBegins idents) := by
    refine .seq fun _ => .seq fun _ => ?_
    extract_lets -underBinder afterPrewhere
    have hprewhere (prewhere : Option String) :
        Yields everywhere (afterPrewhere prewhere) (·.CallBegins idents) := by
      refine .seq fun _ => .seq fun _ => .seq fun _ => .seq fun _ => .seq fun _ => .seq fun _ =>
        .seq fun _ => .seq fun _ => .seq fun _ => ?_
      extract_lets -underBinder last
      have hlast (late : List String) : Yields everywhere (last late) (·.CallBegins idents) :=
        .seq fun _ => .pure hitems
      exact .ite (.seq fun _ => hlast _) (.ite (.seq fun _ => hlast _) (.seq fun _ => hlast _))
    exact .ite (.seq fun _ => hprewhere _) (.seq fun _ => hprewhere _)
  exact .ite (.seq fun _ => hsources _) (.seq fun _ => hsources _)

end Selects

/-! ### Statements -/

section Statements

variable {idents : List Ident} {l : Located} {ls : List Located}

lemma body_callBegins {inner : Inner} (hl : l.token = kw "SELECT")
    (h : Reads (select inner) (l :: ls) (·.CallBegins idents)) :
    Reads (body inner) (l :: ls) (·.CallBegins idents) := by
  have hselect : (front (l :: ls)).token.isKeyword "SELECT" = true := by
    rw [front_cons, hl]
    rfl
  have hsimple : Reads (simpleBody inner) (l :: ls) (·.CallBegins idents) := by
    refine .step (run_peekKeyword "SELECT") ?_
    rw [if_pos hselect]
    refine h.bind fun s hs => .pure ?_
    rintro _ ⟨⟩
    exact hs
  have hcombined {bound : Nat} {right : Nat → Parser QueryBody} {left : QueryBody} :
      Yields everywhere (combined bound right left) fun found =>
        ∀ body ∈ found, body.CallBegins idents := by
    refine .seq fun _ => ?_
    extract_lets word
    split
    · exact .none
    · exact .ite .none (.seq fun _ => .seq fun _ => .seq fun _ =>
        .just (by simp [QueryBody.CallBegins]))
  refine .step run_remaining ?_
  rw [List.length_cons, bodyWithin]
  exact hsimple.bind fun first hfirst => .repeatedly (fun _ _ => hcombined) hfirst

lemma query_callBegins {inner : Inner} (hl : l.token = kw "SELECT")
    (h : Reads (select inner) (l :: ls) (·.CallBegins idents)) :
    Reads (query inner) (l :: ls) (·.body.CallBegins idents) := by
  have hword (word : String) (hnot : (kw "SELECT").isKeyword word = false) :
      keyword word ansi (l :: ls) = .ok (false, l :: ls) := by
    rw [run_keyword, front_cons, hl, hnot]
    rfl
  have hwith : withTables inner ansi (l :: ls) = .ok (none, l :: ls) := by
    simp only [withTables, run_bind, hword "WITH" rfl, Bool.false_eq_true, if_false,
      run_pure]
  refine .step hwith (.step (hword "INSERT" rfl) (.step (hword "UPDATE" rfl) ?_))
  refine (body_callBegins hl h).bind fun body hbody => .seq fun _ => .seq fun _ => .seq fun _ => ?_
  extract_lets -underBinder last
  have hlast (limitBy : List String) :
      Yields everywhere (last limitBy) (·.body.CallBegins idents) :=
    .seq fun _ => .seq fun _ => .seq fun _ => .seq fun _ => .pure hbody
  exact .ite (.seq fun _ => hlast _) (.seq fun _ => hlast _)

lemma levelQuery_callBegins (depth : Nat) (hl : l.token = kw "SELECT")
    (h : ∀ depth, Reads (select (level depth)) (l :: ls) (·.CallBegins idents)) :
    Reads (level depth).query (l :: ls) (·.body.CallBegins idents) := by
  cases depth with
  | zero => exact .of_yields .failWith
  | succ depth => exact query_callBegins hl (h depth)

lemma statement_callBegins (depth : Nat) (hl : l.token = kw "SELECT")
    (h : ∀ depth, Reads (select (level depth)) (l :: ls) (·.CallBegins idents)) :
    Reads (statement depth) (l :: ls) (·.CallBegins idents) := by
  have hselect : (front (l :: ls)).token = kw "SELECT" := hl
  cases depth with
  | zero => exact .of_yields .failWith
  | succ depth =>
    -- no statement of one dialect alone begins so, and of the others only a query
    refine .step (a := none) rfl (.step run_peek ?_)
    simp only [hselect]
    refine (levelQuery_callBegins depth hl h).bind fun q hq => .pure ?_
    rintro _ ⟨⟩
    exact hq

/-- The first of the statements is such. -/
def FirstCallBegins (idents : List Ident) (statements : List StatementTree) : Prop :=
  ∃ first more, statements = first :: more ∧ first.CallBegins idents

lemma statementList_callBegins {nested : Parser StatementTree} (hl : l.token = kw "SELECT")
    (h : Reads nested (l :: ls) (·.CallBegins idents)) :
    Reads (statementList nested) (l :: ls) (FirstCallBegins idents) := by
  let Kept (progress : Progress) : Prop := FirstCallBegins idents progress.found.reverse
  have hsemicolon : sign ";" ansi (l :: ls) = .ok (false, l :: ls) := by
    rw [run_sign, front_cons, hl]
    rfl
  have hfinish : ((front (l :: ls)).token == Token.finish) = false := by
    rw [front_cons, hl]
    rfl
  have hfirst : Reads (nextStatement nested {}) (l :: ls) fun found =>
      ∃ progress, found = some progress ∧ Kept progress := by
    refine .step (run_many_of_not hsemicolon) (.step run_peek ?_)
    simp only [hfinish, Bool.false_and, Bool.false_eq_true, if_false]
    exact h.bind fun s hs => .pure ⟨_, rfl, s, [], rfl, hs⟩
  have hnext (progress : Progress) (hprogress : Kept progress) :
      Yields everywhere (nextStatement nested progress) fun found =>
        ∀ progress ∈ found, Kept progress := by
    refine .seq fun _ => .seq fun _ => .ite .none <| .ite .none <| .ite .expected <|
      .seq fun s => .just ?_
    obtain ⟨first, more, hfound, hcall⟩ := hprogress
    exact ⟨first, more ++ [s], by simp [hfound], hcall⟩
  have hsteps : Reads (repeatedly (nextStatement nested) {}) (l :: ls) Kept := by
    refine .step run_remaining (hfirst.bind ?_)
    rintro _ ⟨progress, rfl, hprogress⟩
    exact .steps hnext _ hprogress
  exact hsteps.bind fun progress hprogress => .pure hprogress

/-- **Statements.** When the word after `SELECT` begins neither a form nor what may stand before the
columns, and words with points before them come after it, then the first item of what is read, if it
is a call without an alias, is one of a function whose name begins with all of these words. -/
lemma statements_callBegins {word : Located} {value : String} (hl : l.token = kw "SELECT")
    (hword : word.token = .word value none)
    (hform : Token.isOneOf (callForms ++ ["DISTINCT", "TOP"]) (.word value none) = false)
    (h : Pointed idents ls) (rest : List Located) :
    Reads statements (l :: word :: (ls ++ rest))
      (FirstCallBegins (wordIdent value none word.place :: idents)) := by
  have hfirst :
      (front (word :: (ls ++ rest))).token.isOneOf ["ALL", "DISTINCT", "TOP"] = false := by
    rw [front_cons, hword]
    exact isOneOf_of_subset hform (by decide)
  have hcall : Token.isOneOf callForms (.word value none) = false :=
    isOneOf_of_subset hform fun _ h => List.mem_append_left _ h
  exact statementList_callBegins hl (statement_callBegins depthLimit hl fun depth =>
    select_callBegins hl hfirst (term_callBegins depth hword hcall h rest))

end Statements

end Grammar

/-! ### What is read -/

namespace Reading

variable (r : Reading)

/-- If the expression is a call, the term is one of a function with this name, and the name of the
expression is the parts of that name with points between them. -/
def Calls (t : Term) (e : Expr) : Prop :=
  ∀ kind name args, e = .call kind name args →
    ∃ idents ∈ t.callee?, ∃ values, r.nameParts idents = .ok values ∧
      name = String.intercalate "." values

lemma range_ne_call {negated : Bool} {subject low high : Expr} {kind : CallKind} {name : String}
    {args : List Expr} : range negated subject low high ≠ .call kind name args := by
  unfold range
  split <;> nofun

/-- **Calls.** Only a call stands for a call. -/
lemma expr_calls (select : Nat) (t : Term) : Gives (r.Calls t) (r.expr select t) := by
  cases t with
  | name ident => exact .after fun _ => .ok nofun
  | path idents => exact .after fun _ => .ok nofun
  | literal value => exact .after fun _ => .ok nofun
  | nested t => exact expr_calls select t
  | unary op t => exact .after fun _ => .after fun _ => .ok nofun
  | isNull t => exact .after fun _ => .ok nofun
  | isNotNull t => exact .after fun _ => .ok nofun
  | binary left op right => exact .after fun _ => .after fun _ => .after fun _ => .ok nofun
  | like negated any left pattern escape =>
    exact .ite .error <| .ite .error <| .after fun _ => .after fun _ => .ok nofun
  | inList left items negated => exact .after fun _ => .after fun _ => .ok nofun
  | between subject negated low high =>
    exact .after fun _ => .after fun _ => .after fun _ =>
      .ok fun _ _ _ h => absurd h range_ne_call
  | call name shape args =>
    have hname : Gives (fun values => r.nameParts name = .ok values) (r.nameParts name) :=
      fun _ h => h
    refine .after fun _ => hname.bind fun values hvalues => .after fun _ => .after fun _ => .ok ?_
    rintro _ _ _ ⟨⟩
    exact ⟨name, rfl, values, hvalues, rfl⟩
  | subquery text => exact .error
  | aboutSubquery text => exact .error
  | other text => exact .error

/-- Only an item without an alias stands for a call. -/
lemma column_calls {select : Nat} {item : SelectItem} {kind : CallKind} {name : String}
    {args : List Expr} (h : r.column select item = .ok (.call kind name args)) :
    ∃ t, item = .term t ∧ ∃ idents ∈ t.callee?, ∃ values, r.nameParts idents = .ok values ∧
      name = String.intercalate "." values := by
  have hother (hx : Gives (fun e => ∀ kind name args, e = .call kind name args → False)
      (r.column select item)) : False :=
    hx _ h kind name args rfl
  cases item with
  | term t => exact ⟨t, rfl, r.expr_calls select t _ h kind name args rfl⟩
  | aliased t aliasName => exact (hother (.after fun _ => .after fun _ => .ok nofun)).elim
  | qualifiedWildcard name options =>
    exact (hother (.after fun _ => .after fun _ => .ok nofun)).elim
  | wildcard place options =>
    exact (hother (.after fun _ => .after fun _ => .ok nofun)).elim

end Reading

end SelectBinding.Sql
