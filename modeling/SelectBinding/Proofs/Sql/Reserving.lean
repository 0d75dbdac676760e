import SelectBinding.Proofs.Outcome
import SelectBinding.Sql.Reading

/-!
What a larger dictionary of reserved words changes.

It only rejects. The parts of a query are the same under every dictionary that accepts it, and the
larger one of two accepts what the smaller one does, unless a bare name of the query is among its
words. The names that count are those of tables, columns and functions and the aliases; a name
inside something that is kept by its text is none of them.
-/

namespace SelectBinding

/-- Every word of the dictionary is one of the other dictionary. -/
def Reserved.IncludedIn (fewer more : Reserved) : Prop :=
  ∀ word, fewer.contains word = true → more.contains word = true

lemma Reserved.includedIn_withExtra (reserved : Reserved) (words : List String) :
    reserved.IncludedIn (reserved.withExtra words) := by
  intro word hword
  simp only [contains, withExtra, List.contains_iff_mem, List.mem_append] at hword ⊢
  exact .inl hword

namespace Sql

/-! ### The names of a query -/

/-- The name is no reserved word, or it is quoted. -/
def Ident.FreeOf (reserved : Reserved) (ident : Ident) : Prop :=
  ident.quote = none → reserved.contains ident.value = false

instance (reserved : Reserved) (ident : Ident) : Decidable (ident.FreeOf reserved) :=
  inferInstanceAs (Decidable (_ → _))

mutual

/-- The names in a term. -/
def Term.idents : Term → List Ident
  | .name ident => [ident]
  | .path idents => idents
  | .nested t | .unary _ t | .isNull t | .isNotNull t => t.idents
  | .binary left _ right => left.idents ++ right.idents
  | .like _ _ left pattern _ => left.idents ++ pattern.idents
  | .inList left items _ => left.idents ++ identsOfAll items
  | .between subject _ low high => subject.idents ++ (low.idents ++ high.idents)
  | .call name _ args => name ++ identsOfArguments args
  | .literal _ | .subquery _ | .aboutSubquery _ | .other _ => []

/-- The names in a list of terms. -/
def identsOfAll : List Term → List Ident
  | [] => []
  | t :: ts => t.idents ++ identsOfAll ts

/-- The names in the arguments of a call. -/
def identsOfArguments : List Argument → List Ident
  | [] => []
  | .term t :: args => t.idents ++ identsOfArguments args
  | .qualifiedWildcard name :: args => name ++ identsOfArguments args
  | .wildcard :: args | .named _ :: args => identsOfArguments args

end

/-- The names in a column, its alias among them. -/
def SelectItem.idents : SelectItem → List Ident
  | .term t => t.idents
  | .aliased t aliasName => t.idents ++ [aliasName]
  | .qualifiedWildcard name _ => name
  | .wildcard _ _ => []

/-- The name of a table and its alias. -/
def FromItem.idents (item : FromItem) : List Ident :=
  match item.relation.body with
  | .table name _ => name ++ (item.relation.tableAlias.map TableAlias.name).toList
  | _ => []

/-- The names in the columns, the tables and the filter. -/
def Select.idents (s : Select) : List Ident :=
  s.items.flatMap SelectItem.idents ++ (s.sources.flatMap FromItem.idents ++
    s.filter.toList.flatMap Term.idents)

/-- The names in the sorting. -/
def Sorting.idents (sorting : Sorting) : List Ident :=
  sorting.terms.flatMap fun item => item.term.idents

/-- The names in a query that is about a select. -/
def QueryTree.idents (q : QueryTree) : List Ident :=
  (match q.body with
    | .select s => s.idents
    | _ => []) ++ q.sorting.toList.flatMap Sorting.idents

/-! ### Narrower computations -/

/-- The second computation gives what the first one does, when the names are no reserved words. -/
def Narrows {α : Type} (reserved : Reserved) (idents : List Ident) (x y : Except Diagnostic α) :
    Prop :=
  ∀ a, y = .ok a ↔ x = .ok a ∧ ∀ ident ∈ idents, ident.FreeOf reserved

namespace Narrows

variable {α β : Type} {reserved : Reserved} {idents idents' : List Ident}
  {x y : Except Diagnostic α} {f g : α → Except Diagnostic β}

/-- A computation that reads no names. -/
protected lemma refl (x : Except Diagnostic α) : Narrows reserved [] x x := by
  simp [Narrows]

/-- Computations that both fail. -/
protected lemma error (e e' : Diagnostic) :
    Narrows reserved idents (.error e : Except Diagnostic α) (.error e') := by
  simp [Narrows]

protected lemma bind (h : Narrows reserved idents x y)
    (hf : ∀ a, Narrows reserved idents' (f a) (g a)) :
    Narrows reserved (idents ++ idents') (x >>= f) (y >>= g) := by
  intro b
  simp only [Except.bind_eq_ok_iff, h _, hf _ _, List.forall_mem_append]
  constructor
  · rintro ⟨a, ⟨hx, hfree⟩, hfa, hfree'⟩
    exact ⟨⟨a, hx, hfa⟩, hfree, hfree'⟩
  · rintro ⟨⟨a, hx, hfa⟩, hfree, hfree'⟩
    exact ⟨a, ⟨hx, hfree⟩, hfa, hfree'⟩

/-- After a computation that reads no names. -/
protected lemma after (x : Except Diagnostic α) (hf : ∀ a, Narrows reserved idents (f a) (g a)) :
    Narrows reserved idents (x >>= f) (x >>= g) :=
  (Narrows.refl x).bind hf

/-- After a value. -/
protected lemma okBind (a : α) (hf : Narrows reserved idents (f a) (g a)) :
    Narrows reserved idents (.ok a >>= f) (.ok a >>= g) :=
  hf

/-- What is made of the result reads no names. -/
protected lemma map (h : Narrows reserved idents x y) (f : α → β) :
    Narrows reserved idents (x >>= fun a => pure (f a)) (y >>= fun a => pure (f a)) := by
  have hbind := h.bind fun a => Narrows.refl (pure (f a) : Except Diagnostic β)
  rwa [List.append_nil] at hbind

protected lemma ite {c : Prop} [Decidable c] {x' y' : Except Diagnostic α}
    (h : Narrows reserved idents x y) (h' : Narrows reserved idents x' y') :
    Narrows reserved idents (if c then x else x') (if c then y else y') := by
  split <;> assumption

protected lemma mapM {f g : α → Except Diagnostic β} {names : α → List Ident} (l : List α)
    (h : ∀ a, Narrows reserved (names a) (f a) (g a)) :
    Narrows reserved (l.flatMap names) (l.mapM f) (l.mapM g) := by
  induction l with
  | nil => exact .refl _
  | cons a l ih =>
    rw [List.mapM_cons, List.mapM_cons, List.flatMap_cons]
    exact (h a).bind fun b => ih.map (b :: ·)

protected lemma optionMapM {f g : α → Except Diagnostic β} {names : α → List Ident} (o : Option α)
    (h : ∀ a, Narrows reserved (names a) (f a) (g a)) :
    Narrows reserved (o.toList.flatMap names) (o.mapM f) (o.mapM g) := by
  cases o with
  | none => exact .refl _
  | some a =>
    rw [Option.toList_some, List.flatMap_singleton]
    exact (h a).map some

end Narrows

namespace Reading

variable {text : StatementText} {fewer more : Reserved}

/-! ### Names -/

lemma nameValue_narrows (hmore : fewer.IncludedIn more) (ident : Ident) :
    Narrows more [ident] (nameValue ⟨text, fewer⟩ ident) (nameValue ⟨text, more⟩ ident) := by
  intro value
  unfold nameValue
  cases hquote : ident.quote with
  | some quote => simp [Ident.FreeOf, hquote]
  | none =>
    have hword := hmore ident.value
    cases hmore' : more.contains ident.value <;> cases hfewer : fewer.contains ident.value <;>
      simp_all [Ident.FreeOf, refusal]

lemma nameParts_narrows (hmore : fewer.IncludedIn more) (idents : List Ident) :
    Narrows more idents (nameParts ⟨text, fewer⟩ idents) (nameParts ⟨text, more⟩ idents) := by
  have h : Narrows more (idents.flatMap ([·])) (nameParts ⟨text, fewer⟩ idents) _ :=
    .mapM idents (nameValue_narrows hmore)
  rwa [List.flatMap_singleton'] at h

lemma variableOf_narrows (hmore : fewer.IncludedIn more) (idents : List Ident) :
    Narrows more idents (variableOf ⟨text, fewer⟩ idents) (variableOf ⟨text, more⟩ idents) :=
  (nameParts_narrows hmore idents).map _

lemma asterisk_narrows (hmore : fewer.IncludedIn more) (idents : List Ident) (place : Option Nat) :
    Narrows more idents (asterisk ⟨text, fewer⟩ idents place)
      (asterisk ⟨text, more⟩ idents place) :=
  (nameParts_narrows hmore idents).map _

/-! ### Expressions -/

mutual

/-- **Expressions.** A larger dictionary rejects the terms that have a bare name among its words,
and changes nothing else. -/
lemma expr_narrows (hmore : fewer.IncludedIn more) (select : Nat) (t : Term) :
    Narrows more t.idents (expr ⟨text, fewer⟩ select t) (expr ⟨text, more⟩ select t) := by
  cases t with
  | name ident => exact (variableOf_narrows hmore [ident]).map _
  | path idents => exact (variableOf_narrows hmore idents).map _
  | literal value => exact .refl _
  | nested t => exact expr_narrows hmore select t
  | unary op t => exact .after (unaryOp op) fun op => (expr_narrows hmore select t).map _
  | isNull t => exact (expr_narrows hmore select t).map _
  | isNotNull t => exact (expr_narrows hmore select t).map _
  | binary left op right =>
    exact .after (binaryOp op) fun op =>
      (expr_narrows hmore select left).bind fun _ => (expr_narrows hmore select right).map _
  | like negated any left pattern escape =>
    exact .ite (.error _ _) <| .ite (.error _ _) <|
      (expr_narrows hmore select left).bind fun _ => (expr_narrows hmore select pattern).map _
  | inList left items negated =>
    exact (expr_narrows hmore select left).bind fun _ => (exprs_narrows hmore select items).map _
  | between subject negated low high =>
    exact (expr_narrows hmore select subject).bind fun _ =>
      (expr_narrows hmore select low).bind fun _ => (expr_narrows hmore select high).map _
  | call name shape args =>
    exact .after _ fun _ => (nameParts_narrows hmore name).bind fun _ => .after _ fun _ =>
      (arguments_narrows hmore select _ args).map _
  | subquery text => exact .error _ _
  | aboutSubquery text => exact .error _ _
  | other text => exact .error _ _

lemma exprs_narrows (hmore : fewer.IncludedIn more) (select : Nat) (ts : List Term) :
    Narrows more (identsOfAll ts) (exprs ⟨text, fewer⟩ select ts)
      (exprs ⟨text, more⟩ select ts) := by
  cases ts with
  | nil => exact .refl _
  | cons t ts =>
    exact (expr_narrows hmore select t).bind fun _ => (exprs_narrows hmore select ts).map _

lemma arguments_narrows (hmore : fewer.IncludedIn more) (select : Nat) (offsets : List Nat)
    (args : List Argument) :
    Narrows more (identsOfArguments args) (arguments ⟨text, fewer⟩ select offsets args)
      (arguments ⟨text, more⟩ select offsets args) := by
  cases args with
  | nil => exact .refl _
  | cons arg args =>
    have hrest (e : Expr) := (arguments_narrows hmore select offsets.tail args).map (e :: ·)
    cases arg with
    | term t => exact (expr_narrows hmore select t).bind hrest
    | wildcard => exact .after _ hrest
    | qualifiedWildcard name =>
      exact ((asterisk_narrows hmore name offsets.head?).map Expr.var).bind hrest
    | named text => exact .error _ _

end

/-! ### Columns, tables and sorting -/

lemma column_narrows (hmore : fewer.IncludedIn more) (select : Nat) (item : SelectItem) :
    Narrows more item.idents (column ⟨text, fewer⟩ select item)
      (column ⟨text, more⟩ select item) := by
  cases item with
  | term t => exact expr_narrows hmore select t
  | aliased t aliasName =>
    exact (expr_narrows hmore select t).bind fun _ => (nameValue_narrows hmore aliasName).map _
  | qualifiedWildcard name options =>
    exact .after _ fun _ => (asterisk_narrows hmore name none).map _
  | wildcard place options => exact .refl _

lemma aliasedTable_narrows (hmore : fewer.IncludedIn more) (table : Variable)
    (given : Option TableAlias) :
    Narrows more (given.map TableAlias.name).toList (aliasedTable ⟨text, fewer⟩ table given)
      (aliasedTable ⟨text, more⟩ table given) := by
  cases given with
  | none => exact .refl _
  | some given => exact .ite ((variableOf_narrows hmore [given.name]).map _) (.error _ _)

lemma table_narrows (hmore : fewer.IncludedIn more) (select : Nat) (item : FromItem) :
    Narrows more item.idents (table ⟨text, fewer⟩ select item)
      (table ⟨text, more⟩ select item) := by
  obtain ⟨⟨body, given⟩, joins⟩ := item
  refine .ite (.error _ _) ?_
  cases body with
  | table name extras =>
    exact .ite ((variableOf_narrows hmore name).bind fun v => aliasedTable_narrows hmore v given)
      (.error _ _)
  | derived text => exact .error _ _
  | nestedJoin text => exact .error _ _
  | other before after => exact .error _ _

lemma sortName_narrows (hmore : fewer.IncludedIn more) (idents : List Ident) (ascending : Bool) :
    Narrows more idents (sortName ⟨text, fewer⟩ idents ascending)
      (sortName ⟨text, more⟩ idents ascending) :=
  (nameParts_narrows hmore idents).map _

lemma sortItem_narrows (hmore : fewer.IncludedIn more) (order : Nat) (item : SortTerm)
    (position : Option Nat) :
    Narrows more item.term.idents (sortItem ⟨text, fewer⟩ order item position)
      (sortItem ⟨text, more⟩ order item position) := by
  obtain ⟨t, ascending, nullsFirst, withFill⟩ := item
  unfold sortItem
  rcases nullsFirst with _ | _ | _
  · refine .ite (.error _ _) ?_
    cases t with
    | name ident => exact sortName_narrows hmore [ident] _
    | path idents => exact sortName_narrows hmore idents _
    | literal value =>
      cases value with
      | number => exact .refl _
      | _ => exact .error _ _
    | _ => exact .error _ _
  · exact .error _ _
  · exact .error _ _

lemma sortItems_narrows (hmore : fewer.IncludedIn more) (order : Nat) (offsets : List Nat)
    (items : List SortTerm) :
    Narrows more (items.flatMap fun item => item.term.idents)
      (sortItems ⟨text, fewer⟩ order offsets items)
      (sortItems ⟨text, more⟩ order offsets items) := by
  induction items generalizing offsets with
  | nil => exact .refl _
  | cons item items ih =>
    rw [List.flatMap_cons]
    exact (sortItem_narrows hmore order item offsets.head?).bind fun first =>
      (ih offsets.tail).map (first :: ·)

lemma ordering_narrows (hmore : fewer.IncludedIn more) (select : Nat) (sorting : Option Sorting) :
    Narrows more (sorting.toList.flatMap Sorting.idents) (ordering ⟨text, fewer⟩ select sorting)
      (ordering ⟨text, more⟩ select sorting) := by
  cases sorting with
  | none => exact .refl _
  | some sorting =>
    rw [Option.toList_some, List.flatMap_singleton]
    exact .ite (.error _ _) (sortItems_narrows hmore _ _ sorting.terms)

/-! ### Queries -/

lemma fragments_narrows (hmore : fewer.IncludedIn more) (q : QueryTree) :
    Narrows more q.idents (fragments ⟨text, fewer⟩ q) (fragments ⟨text, more⟩ q) := by
  obtain ⟨withTables, body, sorting⟩ := q
  refine .after _ fun _ => ?_
  -- Only a select has names of its own; everything else is refused under every dictionary.
  cases body with
  | operation word text => exact .error _ _
  | nested text => exact .error _ _
  | other text => exact .error _ _
  | select s =>
    simp only [QueryTree.idents, Select.idents, List.append_assoc]
    refine .okBind s <| .after _ fun _ => ?_
    exact (Narrows.mapM s.items fun item => column_narrows hmore _ item).bind fun _ =>
      (Narrows.mapM s.sources fun item => table_narrows hmore _ item).bind fun _ =>
      (Narrows.optionMapM s.filter fun t => expr_narrows hmore _ t).bind fun _ =>
      (ordering_narrows hmore _ sorting).map _

/-- **Reserved words.** A larger dictionary only rejects: under it a query has the parts that it has
under the smaller one, unless a bare name in the query is among the words of the larger one. -/
theorem fragments_reserved_iff (hmore : fewer.IncludedIn more) {q : QueryTree}
    {parts : Fragments} :
    fragments ⟨text, more⟩ q = .ok parts ↔
      fragments ⟨text, fewer⟩ q = .ok parts ∧ ∀ ident ∈ q.idents, ident.FreeOf more :=
  fragments_narrows hmore q parts

/-- The statement `SELECT id AS "owner" FROM accounts a` as it is read. -/
def quotedQuery : QueryTree :=
  { body := .select
      { place := ⟨1, 1⟩
        items := [.aliased (.name ⟨"id", none, ⟨1, 8⟩⟩) ⟨"owner", some '"', ⟨1, 14⟩⟩]
        sources := [{ relation :=
          { body := .table [⟨"accounts", none, ⟨1, 27⟩⟩] {}
            tableAlias := some { name := ⟨"a", none, ⟨1, 36⟩⟩ } } }] } }

/-- A word that only a quoted name is spelled as changes nothing, and the name of the table
rejects. -/
theorem fragments_reserved_quoted : ∃ text parts,
    fragments ⟨text, .builtin⟩ quotedQuery = .ok parts ∧
    Reserved.builtin.IncludedIn (Reserved.builtin.withExtra ["owner"]) ∧
    fragments ⟨text, Reserved.builtin.withExtra ["owner"]⟩ quotedQuery = .ok parts ∧
    Reserved.builtin.IncludedIn (Reserved.builtin.withExtra ["Accounts"]) ∧
    fragments ⟨text, Reserved.builtin.withExtra ["Accounts"]⟩ quotedQuery ≠ .ok parts := by
  obtain ⟨parts, h⟩ := Except.exists_of_isOk
    (x := fragments ⟨.of .ansi "SELECT id AS \"owner\" FROM accounts a", .builtin⟩ quotedQuery)
    (by decide +kernel)
  have howner := Reserved.builtin.includedIn_withExtra ["owner"]
  have haccounts := Reserved.builtin.includedIn_withExtra ["Accounts"]
  refine ⟨_, parts, h, howner, (fragments_reserved_iff howner).mpr ⟨h, by decide⟩, haccounts,
    fun hmore => ?_⟩
  exact absurd ((fragments_reserved_iff haccounts).mp hmore).2 (by decide)

end Reading

end Sql

end SelectBinding
