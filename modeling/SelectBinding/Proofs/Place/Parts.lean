import SelectBinding.Proofs.Place.Queries
import SelectBinding.Proofs.Place.Texts
import SelectBinding.Sql.Reading

/-!
The parts of a query, and what is said against a statement, are placed inside the text.

The positions in the parts are offsets of names, of keywords that are looked for and of items of
lists. None of them is beyond the end of the text, and neither is the position of an error that
refuses the statement.
-/

namespace SelectBinding

/-- The error has no position, or one that is not beyond the end of a text of `n` characters. -/
def Diagnostic.Within (n : Nat) (e : Diagnostic) : Prop :=
  ∀ p ∈ e.position, p ≤ n

/-- The variable has no position, or one that is not beyond the end of a text of `n` characters. -/
def Variable.Within (n : Nat) (v : Variable) : Prop :=
  ∀ p ∈ v.position, p ≤ n

/-- The same of all variables of the expression. -/
def Expr.Within (n : Nat) (e : Expr) : Prop :=
  ∀ v ∈ e.allVariables, v.Within n

/-- The same of the sorting criterion. -/
def SortItem.Within (n : Nat) (item : SortItem) : Prop :=
  ∀ p ∈ item.position, p ≤ n

/-- What is computed satisfies `post`, and an error is placed within `n` characters. -/
def Placed {α : Type} (n : Nat) (post : α → Prop) : Except Diagnostic α → Prop
  | .ok a => post a
  | .error e => e.Within n

namespace Placed

variable {α β : Type} {n : Nat} {post : α → Prop} {post' : β → Prop} {x : Except Diagnostic α}

protected lemma bind {f : α → Except Diagnostic β} (h : Placed n post x)
    (hf : ∀ a, post a → Placed n post' (f a)) : Placed n post' (x >>= f) := by
  cases x with
  | ok a => exact hf a h
  | error e => exact h

protected lemma map {f : α → β} (h : Placed n (fun a => post' (f a)) x) :
    Placed n post' (f <$> x) := by
  cases x <;> exact h

protected lemma mono {weaker : α → Prop} (h : Placed n post x) (himp : ∀ a, post a → weaker a) :
    Placed n weaker x := by
  cases x with
  | ok a => exact himp a h
  | error e => exact h

protected lemma ite {b : Prop} [Decidable b] {y : Except Diagnostic α} (h : Placed n post x)
    (hy : Placed n post y) : Placed n post (if b then x else y) := by
  split <;> assumption

/-- An error without a position. -/
protected lemma nowhere {kind : ErrorKind} {message token : String} {details : Option String} :
    Placed n post (.error ⟨kind, message, details, token, none⟩) := by
  rintro _ ⟨⟩

protected lemma mapM {f : α → Except Diagnostic β} {l : List α}
    (h : ∀ a ∈ l, Placed n post' (f a)) : Placed n (fun bs => ∀ b ∈ bs, post' b) (l.mapM f) := by
  induction l with
  | nil => simp [Placed, pure, Except.pure]
  | cons a l ih =>
    rw [List.mapM_cons]
    obtain ⟨ha, hl⟩ := List.forall_mem_cons.mp h
    exact ha.bind fun b hb => (ih hl).bind fun bs hbs => List.forall_mem_cons.mpr ⟨hb, hbs⟩

protected lemma optionMapM {f : α → Except Diagnostic β} {o : Option α}
    (h : ∀ a ∈ o, Placed n post' (f a)) : Placed n (fun o' => ∀ b ∈ o', post' b) (o.mapM f) := by
  cases o with
  | none => simp [Placed, pure, Except.pure]
  | some a => exact .map ((h a rfl).mono fun b hb => by simpa using hb)

end Placed

namespace Sql.Reading

variable {r : Reading}

/-- An error with a position inside the text. -/
lemma refusal_placed {α : Type} {n : Nat} {post : α → Prop} {message token : String}
    {position : Option Nat} (h : ∀ p ∈ position, p ≤ n) :
    Placed n post (refusal message token position) :=
  h

lemma unsupported_placed (hr : r.text.Sound) {α : Type} {post : α → Prop}
    {construct word : String} {start : Nat} :
    Placed r.text.length post (r.unsupported construct word start) :=
  refusal_placed fun _ hp => hr.findFrom? hp

/-! ### Names -/

lemma start?_le {idents : List Ident} (h : ∀ ident ∈ idents, ident.Within r.text.inside) :
    ∀ p ∈ r.start? idents, p ≤ r.text.length := by
  intro p hp
  obtain ⟨ident, hident, hp⟩ := Option.bind_eq_some_iff.mp hp
  exact h ident (List.mem_of_mem_head? hident) p hp

lemma nameValue_placed {ident : Ident} (h : ident.Within r.text.inside) :
    Placed r.text.length (fun _ => True) (r.nameValue ident) := by
  refine .ite (refusal_placed h) trivial

lemma nameParts_placed {idents : List Ident} (h : ∀ ident ∈ idents, ident.Within r.text.inside) :
    Placed r.text.length (fun _ => True) (r.nameParts idents) :=
  (Placed.mapM fun ident hident => nameValue_placed (h ident hident)).mono fun _ _ => trivial

lemma variableOf_placed {idents : List Ident} (h : ∀ ident ∈ idents, ident.Within r.text.inside) :
    Placed r.text.length (·.Within r.text.length) (r.variableOf idents) :=
  (nameParts_placed h).bind fun _ _ => start?_le h

lemma asterisk_placed {idents : List Ident} {place : Option Nat}
    (h : ∀ ident ∈ idents, ident.Within r.text.inside) (hplace : ∀ p ∈ place, p ≤ r.text.length) :
    Placed r.text.length (·.Within r.text.length) (r.asterisk idents place) := by
  refine (nameParts_placed h).bind fun _ _ => ?_
  intro p hp
  rcases Option.or_eq_some_iff.mp hp with hp | ⟨-, hp⟩
  · exact start?_le h p hp
  · exact hplace p hp

/-! ### Expressions -/

lemma numberValue_placed {n : Nat} {spelling : String} :
    Placed n (fun _ => True) (numberValue spelling) := by
  unfold numberValue
  split
  · trivial
  · split
    · trivial
    · exact .nowhere

lemma constant_placed {n : Nat} (value : Literal) : Placed n (fun _ => True) (constant value) := by
  cases value with
  | number => exact numberValue_placed
  | other => exact .nowhere
  | _ => trivial

lemma unaryOp_placed {n : Nat} (op : UnaryOperator) : Placed n (fun _ => True) (unaryOp op) := by
  cases op with
  | unknown | trailing => exact .nowhere
  | _ => trivial

lemma binaryOp_placed {n : Nat} (op : Operator) : Placed n (fun _ => True) (binaryOp op) := by
  cases op with
  | known => trivial
  | unknown => exact .nowhere

lemma range_within {n : Nat} {negated : Bool} {subject low high : Expr} (h : subject.Within n)
    (hlow : low.Within n) (hhigh : high.Within n) : (range negated subject low high).Within n := by
  have hvariable (v : Variable) (hv : v ∈ subject.allVariables ++ low.allVariables ++
      (subject.allVariables ++ high.allVariables)) : v.Within n := by
    simp only [List.mem_append] at hv
    rcases hv with (hv | hv) | hv | hv
    · exact h v hv
    · exact hlow v hv
    · exact h v hv
    · exact hhigh v hv
  unfold range
  split <;> exact hvariable

/-- An expression that is a variable is placed as the variable is. -/
lemma var_within {n : Nat} {v : Variable} (h : v.Within n) : (Expr.var v).Within n := by
  simpa [Expr.Within, Expr.allVariables] using h

lemma checkShape_placed (hr : r.text.Sound) {shape : CallShape} {start : Nat} :
    Placed r.text.length (fun _ => True) (r.checkShape shape start) :=
  .ite (unsupported_placed hr) <| .ite (unsupported_placed hr) <| .ite (unsupported_placed hr) <|
    .ite (unsupported_placed hr) trivial

lemma checkArguments_placed (hr : r.text.Sound) {shape : CallShape} {call name : String}
    {start : Nat} (hstart : start ≤ r.text.length) :
    Placed r.text.length (fun _ => True) (r.checkArguments shape call name start) := by
  have hplace : ∀ p ∈ some start, p ≤ r.text.length := by
    rintro _ ⟨⟩
    exact hstart
  refine .ite (refusal_placed hplace) ?_
  split
  · trivial
  · exact unsupported_placed hr
  · exact refusal_placed hplace
  · exact .ite trivial (refusal_placed hplace)

lemma argumentOffsets_le (hr : r.text.Sound) {start : Nat} :
    ∀ p ∈ r.argumentOffsets start, p ≤ r.text.length := by
  intro p hp
  unfold argumentOffsets at hp
  split at hp
  · exact hr.listOffsets hp
  · cases hp

mutual

/-- **Expressions.** The expression of a term that stands in the text is placed inside it. -/
lemma expr_placed (hr : r.text.Sound) {select : Nat} (hselect : select ≤ r.text.length) (t : Term)
    (h : t.Within r.text.inside) :
    Placed r.text.length (·.Within r.text.length) (r.expr select t) := by
  cases t with
  | name ident =>
    cases h with | name h =>
    exact (variableOf_placed (by simpa using h)).bind fun _ hv => var_within hv
  | path idents =>
    cases h with | path h =>
    exact (variableOf_placed h).bind fun _ hv => var_within hv
  | literal value =>
    refine (constant_placed value).bind fun _ _ => ?_
    simp [Placed, pure, Except.pure, Expr.Within, Expr.allVariables]
  | nested t =>
    cases h with | nested h =>
    exact expr_placed hr hselect t h
  | unary op t =>
    cases h with | unary _ h =>
    exact (unaryOp_placed op).bind fun _ _ => (expr_placed hr hselect t h).bind fun _ he => he
  | isNull t =>
    cases h with | isNull h =>
    exact (expr_placed hr hselect t h).bind fun _ he => he
  | isNotNull t =>
    cases h with | isNotNull h =>
    exact (expr_placed hr hselect t h).bind fun _ he => he
  | binary left op right =>
    cases h with | binary _ h hright =>
    exact (binaryOp_placed op).bind fun _ _ => (expr_placed hr hselect left h).bind fun _ he =>
      (expr_placed hr hselect right hright).bind fun _ he' => List.forall_mem_append.mpr ⟨he, he'⟩
  | like negated any left pattern escape =>
    cases h with | like _ _ _ h hpattern =>
    exact .ite (unsupported_placed hr) <| .ite (unsupported_placed hr) <|
      (expr_placed hr hselect left h).bind fun _ he =>
      (expr_placed hr hselect pattern hpattern).bind fun _ he' =>
      List.forall_mem_append.mpr ⟨he, he'⟩
  | inList left items negated =>
    cases h with | inList _ h hitems =>
    exact (expr_placed hr hselect left h).bind fun _ he =>
      (exprs_placed hr hselect items hitems).bind fun _ hes => List.forall_mem_append.mpr ⟨he, hes⟩
  | between subject negated low high =>
    cases h with | between _ h hlow hhigh =>
    exact (expr_placed hr hselect subject h).bind fun _ hs => (expr_placed hr hselect low hlow).bind
      fun _ hl => (expr_placed hr hselect high hhigh).bind fun _ hh => range_within hs hl hh
  | call name shape args =>
    cases h with | call _ h hargs =>
    have hstart : (r.start? name).getD select ≤ r.text.length := by
      cases hname : r.start? name with
      | none => exact hselect
      | some p => exact start?_le h p hname
    exact (checkShape_placed hr).bind fun _ _ => (nameParts_placed h).bind fun _ _ =>
      (checkArguments_placed hr hstart).bind fun _ _ =>
      (arguments_placed hr hselect (argumentOffsets_le hr) args hargs).bind fun _ hes => hes
  | subquery text => exact unsupported_placed hr
  | aboutSubquery text => exact unsupported_placed hr
  | other text => exact .nowhere

lemma exprs_placed (hr : r.text.Sound) {select : Nat} (hselect : select ≤ r.text.length)
    (ts : List Term) (h : ∀ t ∈ ts, t.Within r.text.inside) :
    Placed r.text.length (fun es => ∀ v ∈ Expr.variablesOfAll es, v.Within r.text.length)
      (r.exprs select ts) := by
  cases ts with
  | nil => simp [exprs, Placed, pure, Except.pure, Expr.variablesOfAll]
  | cons t ts =>
    obtain ⟨ht, hts⟩ := List.forall_mem_cons.mp h
    exact (expr_placed hr hselect t ht).bind fun _ he =>
      (exprs_placed hr hselect ts hts).bind fun _ hes => List.forall_mem_append.mpr ⟨he, hes⟩

lemma arguments_placed (hr : r.text.Sound) {select : Nat} (hselect : select ≤ r.text.length)
    {offsets : List Nat} (hoffsets : ∀ p ∈ offsets, p ≤ r.text.length) (args : List Argument)
    (h : ∀ arg ∈ args, arg.Within r.text.inside) :
    Placed r.text.length (fun es => ∀ v ∈ Expr.variablesOfAll es, v.Within r.text.length)
      (r.arguments select offsets args) := by
  cases args with
  | nil => simp [arguments, Placed, pure, Except.pure, Expr.variablesOfAll]
  | cons arg args =>
    obtain ⟨harg, hargs⟩ := List.forall_mem_cons.mp h
    have hhead : ∀ p ∈ offsets.head?, p ≤ r.text.length :=
      fun p hp => hoffsets p (List.mem_of_mem_head? hp)
    have hrest := arguments_placed hr hselect
      (fun p hp => hoffsets p (List.mem_of_mem_tail hp)) args hargs
    have hfirst (e : Expr) (he : e.Within r.text.length) :
        Placed r.text.length (fun es => ∀ v ∈ Expr.variablesOfAll es, v.Within r.text.length)
          (do return e :: (← r.arguments select offsets.tail args)) :=
      hrest.bind fun _ hes => List.forall_mem_append.mpr ⟨he, hes⟩
    cases arg with
    | term t =>
      cases harg with | term ht =>
      exact (expr_placed hr hselect t ht).bind hfirst
    | wildcard =>
      exact Placed.bind (.map ((asterisk_placed (by simp) hhead).mono fun _ => var_within)) hfirst
    | qualifiedWildcard name =>
      cases harg with | qualifiedWildcard hname =>
      exact Placed.bind (.map ((asterisk_placed hname hhead).mono fun _ => var_within)) hfirst
    | named text => exact Placed.bind (refusal_placed hhead) hfirst

end

/-! ### Columns and tables -/

/-- The name that follows `AS` has no position. -/
lemma aliased_within {n : Nat} {e : Expr} {name : String} (h : e.Within n) :
    (e.aliased name).Within n := by
  refine List.forall_mem_append.mpr ⟨h, ?_⟩
  simp [Expr.allVariables, Variable.Within]

end Sql.Reading

/-- All positions in the parts are inside a text of `n` characters. -/
structure Fragments.Within (n : Nat) (parts : Fragments) : Prop where
  columns : ∀ columns ∈ parts.columns, ∀ item ∈ columns, item.Within n
  tables : ∀ tables ∈ parts.tables, ∀ item ∈ tables, item.Within n
  filter : ∀ clauses ∈ parts.clauses, ∀ e ∈ clauses.filter, e.Within n
  ordering : ∀ clauses ∈ parts.clauses, ∀ item ∈ clauses.ordering, item.Within n

namespace Sql.Reading

variable {r : Reading}

end Sql.Reading

end SelectBinding
