import SelectBinding.Proofs.Build.Shapes
import SelectBinding.Sql.Fragments

/-!
The shapes of what a statement is read as.

Every term that is taken becomes a plain expression, a value between two bounds two comparisons
under one connective. Only items after `SELECT` and `FROM` get names, and these have one part. So
building a query from what was read refuses none of it for its shape, but for an asterisk that
stands for all tables where there are none.
-/

namespace SelectBinding

/-- Whatever the computation gives satisfies `post`. -/
def Gives {α : Type} (post : α → Prop) (x : Except Diagnostic α) : Prop :=
  ∀ a, x = .ok a → post a

namespace Gives

variable {α β : Type} {post : α → Prop} {post' : β → Prop} {x : Except Diagnostic α}

protected lemma ok {a : α} (h : post a) : Gives post (.ok a) := by
  rintro _ ⟨⟩
  exact h

protected lemma error {e : Diagnostic} : Gives post (.error e) := by
  rintro _ ⟨⟩

protected lemma anything : Gives (fun _ => True) x :=
  fun _ _ => trivial

protected lemma bind {f : α → Except Diagnostic β} (h : Gives post x)
    (hf : ∀ a, post a → Gives post' (f a)) : Gives post' (x >>= f) := by
  intro b hb
  obtain ⟨a, ha, hb⟩ := Except.bind_eq_ok_iff.mp hb
  exact hf a (h a ha) b hb

/-- What is computed first does not matter. -/
protected lemma after {f : α → Except Diagnostic β} (hf : ∀ a, Gives post' (f a)) :
    Gives post' (x >>= f) :=
  Gives.anything.bind fun a _ => hf a

protected lemma map {f : α → β} (h : Gives (fun a => post' (f a)) x) : Gives post' (f <$> x) :=
  Gives.bind (f := fun a => pure (f a)) h fun _ ha => .ok ha

protected lemma ite {c : Prop} [Decidable c] {y : Except Diagnostic α} (h : Gives post x)
    (hy : Gives post y) : Gives post (if c then x else y) := by
  split <;> assumption

protected lemma mapM {f : α → Except Diagnostic β} {l : List α} (h : ∀ a, Gives post' (f a)) :
    Gives (fun bs => ∀ b ∈ bs, post' b) (l.mapM f) := by
  intro bs hbs b hb
  obtain ⟨a, -, ha⟩ := exists_left_of_forall₂ (Except.mapM_ok_iff.mp hbs) hb
  exact h a b ha

protected lemma optionMapM {f : α → Except Diagnostic β} {o : Option α}
    (h : ∀ a, Gives post' (f a)) : Gives (fun o' => ∀ b ∈ o', post' b) (o.mapM f) := by
  cases o with
  | none => exact .ok (by simp)
  | some a => exact (h a).bind fun b hb => .ok (by simpa using hb)

end Gives

namespace Sql

lemma asksMembership_of_standsAlone {op : BinaryOp} (h : op.standsAlone = true) :
    op.asksMembership = false := by
  cases op <;> simp_all [BinaryOp.standsAlone, BinaryOp.asksMembership]

namespace Reading

open SelectBinding.Expr (Plain ColumnShaped TableShaped)

variable (r : Reading)

/-! ### Names -/

/-- A name has its value, unless it is a reserved word without quotes. -/
lemma nameValue_ok_iff {ident : Ident} {name : String} :
    r.nameValue ident = .ok name ↔
      (ident.quote = none → r.reserved.contains ident.value = false) ∧ ident.value = name := by
  rw [nameValue]
  split
  · next h =>
    obtain ⟨hquote, hreserved⟩ : ident.quote = none ∧ r.reserved.contains ident.value = true := by
      simpa using h
    constructor
    · rintro ⟨⟩
    · rintro ⟨hfree, -⟩
      rw [hfree hquote] at hreserved
      cases hreserved
  · next h =>
    have hfree : ident.quote = none → r.reserved.contains ident.value = false := by simpa using h
    exact ⟨fun hok => ⟨hfree, Except.ok.inj hok⟩, fun hname => congrArg _ hname.2⟩

lemma nameParts_ok_iff {idents : List Ident} {parts : List String} :
    r.nameParts idents = .ok parts ↔
      (∀ ident ∈ idents, ident.quote = none → r.reserved.contains ident.value = false) ∧
        idents.map Ident.value = parts := by
  simp only [nameParts, Except.mapM_ok_iff, nameValue_ok_iff, List.forall₂_and_left,
    ← List.forall₂_map_left_iff (f := Ident.value) (R := Eq), List.forall₂_eq_eq_eq]

lemma nameParts_gives (idents : List Ident) :
    Gives (· = idents.map Ident.value) (r.nameParts idents) :=
  fun _ h => (r.nameParts_ok_iff.mp h).2.symm

lemma variableOf_gives (idents : List Ident) :
    Gives (fun v => v.parts = idents.map Ident.value) (r.variableOf idents) :=
  (r.nameParts_gives idents).bind fun _ h => .ok h

lemma asterisk_gives (idents : List Ident) (place : Option Nat) :
    Gives (fun v => v.parts = idents.map Ident.value ++ ["*"]) (r.asterisk idents place) :=
  (r.nameParts_gives idents).bind fun _ h => .ok (congrArg (· ++ ["*"]) h)

lemma variableOf_plain (idents : List Ident) :
    Gives (fun v => (Expr.var v).Plain) (r.variableOf idents) :=
  .after fun _ => .ok (.var _ _)

lemma asterisk_plain (idents : List Ident) (place : Option Nat) :
    Gives (fun v => (Expr.var v).Plain) (r.asterisk idents place) :=
  .after fun _ => .ok (.var _ _)

/-- A single name has one part. -/
lemma variableOf_single (ident : Ident) :
    Gives (fun v => ∃ name position, v = ⟨[name], position, none⟩) (r.variableOf [ident]) := by
  intro v hv
  obtain ⟨parts, hparts, hv⟩ := Except.bind_eq_ok_iff.mp hv
  obtain rfl := Except.ok.inj hv
  obtain ⟨name, rfl⟩ := List.length_eq_one_iff.mp (Except.mapM_ok_iff.mp hparts).length_eq.symm
  exact ⟨name, _, rfl⟩

/-! ### Expressions -/

lemma binaryOp_gives (op : Operator) : Gives (·.asksMembership = false) (binaryOp op) := by
  cases op with
  | known op halone => exact .ok (asksMembership_of_standsAlone halone)
  | unknown spelling => exact .error

lemma range_plain (negated : Bool) {subject low high : Expr} (hsubject : subject.Plain)
    (hlow : low.Plain) (hhigh : high.Plain) : (range negated subject low high).Plain := by
  unfold range
  split
  · exact .binary rfl (.binary rfl hsubject hlow) (.binary rfl hsubject hhigh)
  · exact .binary rfl (.binary rfl hsubject hlow) (.binary rfl hsubject hhigh)

lemma callKind_eq_aggregate_iff (name : String) :
    callKind name = .aggregate ↔
      ∃ known ∈ ["COUNT", "SUM", "AVG", "MIN", "MAX"], Name.agree known name = true := by
  unfold callKind
  split
  · next h => simpa [aggregates] using h
  · next h => simpa [aggregates] using h

mutual

/-- **Expressions.** A term that is taken stands for a plain expression. -/
lemma expr_plain (select : Nat) (t : Term) : Gives Plain (r.expr select t) := by
  cases t with
  | name ident => exact (r.variableOf_plain [ident]).bind fun _ hv => .ok hv
  | path idents => exact (r.variableOf_plain idents).bind fun _ hv => .ok hv
  | literal value => exact .after fun _ => .ok (.const _)
  | nested t => exact expr_plain select t
  | unary op t => exact .after fun op => (expr_plain select t).bind fun _ h => .ok (.unary op h)
  | isNull t => exact (expr_plain select t).bind fun _ h => .ok (.unary _ h)
  | isNotNull t => exact (expr_plain select t).bind fun _ h => .ok (.unary _ h)
  | binary left op right =>
    exact (binaryOp_gives op).bind fun _ hop => (expr_plain select left).bind fun _ hleft =>
      (expr_plain select right).bind fun _ hright => .ok (.binary hop hleft hright)
  | like negated any left pattern escape =>
    refine .ite .error <| .ite .error <| (expr_plain select left).bind fun _ hleft =>
      (expr_plain select pattern).bind fun _ hright => .ok (.binary ?_ hleft hright)
    cases negated <;> rfl
  | inList left items negated =>
    refine (expr_plain select left).bind fun _ hleft =>
      (exprs_plain select items).bind fun _ hitems => .ok (.membership ?_ hleft hitems)
    cases negated <;> rfl
  | between subject negated low high =>
    exact (expr_plain select subject).bind fun _ hsubject =>
      (expr_plain select low).bind fun _ hlow =>
      (expr_plain select high).bind fun _ hhigh => .ok (range_plain negated hsubject hlow hhigh)
  | call name shape args =>
    exact .after fun _ => .after fun _ => .after fun _ =>
      (arguments_plain select _ args).bind fun _ hargs =>
        .ok (.call (callKind_eq_aggregate_iff _) hargs)
  | subquery text => exact .error
  | aboutSubquery text => exact .error
  | other text => exact .error

lemma exprs_plain (select : Nat) (ts : List Term) :
    Gives (fun es => ∀ e ∈ es, e.Plain) (r.exprs select ts) := by
  cases ts with
  | nil => exact .ok (by simp)
  | cons t ts =>
    exact (expr_plain select t).bind fun _ h => (exprs_plain select ts).bind fun _ hrest =>
      .ok (List.forall_mem_cons.mpr ⟨h, hrest⟩)

lemma arguments_plain (select : Nat) (offsets : List Nat) (args : List Argument) :
    Gives (fun es => ∀ e ∈ es, e.Plain) (r.arguments select offsets args) := by
  cases args with
  | nil => exact .ok (by simp)
  | cons arg args =>
    have hmore (e : Expr) (he : e.Plain) : Gives (fun es => ∀ e ∈ es, e.Plain)
        (do return e :: (← r.arguments select offsets.tail args)) :=
      (arguments_plain select offsets.tail args).bind fun _ hrest =>
        .ok (List.forall_mem_cons.mpr ⟨he, hrest⟩)
    cases arg with
    | term t => exact (expr_plain select t).bind hmore
    | wildcard => exact Gives.bind (.map (r.asterisk_plain [] _)) hmore
    | qualifiedWildcard name => exact Gives.bind (.map (r.asterisk_plain name _)) hmore
    | named text => exact .error

end

/-! ### Columns and tables -/

lemma column_shaped (select : Nat) (item : SelectItem) :
    Gives ColumnShaped (r.column select item) := by
  cases item with
  | term t => exact fun e he => .bare (r.expr_plain select t e he)
  | aliased t aliasName =>
    exact (r.expr_plain select t).bind fun _ h => .after fun name => .ok (.named h name none true)
  | qualifiedWildcard name options =>
    exact .after fun _ => (r.asterisk_plain name none).bind fun _ h => .ok (.bare h)
  | wildcard place options =>
    exact .after fun _ => (r.asterisk_plain [] _).bind fun _ h => .ok (.bare h)

lemma aliasedTable_shaped (parts : List String) (position : Option Nat)
    (given : Option TableAlias) :
    Gives TableShaped (r.aliasedTable ⟨parts, position, none⟩ given) := by
  cases given with
  | none => exact .ok (.bare parts position)
  | some given =>
    refine .ite ((r.variableOf_single given.name).bind ?_) .error
    rintro _ ⟨name, place, rfl⟩
    exact .ok (.named parts position name place false)

lemma table_shaped (select : Nat) (item : FromItem) : Gives TableShaped (r.table select item) := by
  refine .ite .error ?_
  split
  · next name extras _ =>
    refine .ite ((r.variableOf_plain name).bind ?_) .error
    rintro _ ⟨⟩
    exact r.aliasedTable_shaped _ _ _
  · exact .error
  · exact .error

/-! ### Queries -/

lemma fragments_gives_shaped (q : QueryTree) : Gives Fragments.Shaped (r.fragments q) := by
  refine .after fun _ => .after fun s => .after fun _ =>
    (Gives.mapM (r.column_shaped _)).bind fun columns hcolumns =>
    (Gives.mapM (r.table_shaped _)).bind fun tables htables =>
    (Gives.optionMapM (r.expr_plain _)).bind fun filter hfilter =>
    .after fun ordering => .ok ⟨hcolumns, ?_, ?_⟩
  · dsimp only
    split
    · simp
    · exact htables
  · dsimp only
    split
    · simp
    · exact hfilter

/-- **Shapes.** What a query is read as has the shapes that building a query takes: every column is
a plain expression, perhaps under a name of one part, every table is a variable, perhaps under such
a name, and the filter is plain. So building refuses it for its shape only for an asterisk that
stands for all tables where there are none. -/
theorem fragments_shaped {r : Reading} {q : QueryTree} {parts : Fragments}
    (h : r.fragments q = .ok parts) :
    (∀ item ∈ parts.columns.getD [], item.ColumnShaped) ∧
    (∀ item ∈ parts.tables.getD [], item.TableShaped) ∧
    (∀ filter ∈ parts.clauses.bind Clauses.filter, filter.Plain) ∧
    ∀ (lookup? : Lookup) (e : Diagnostic), Fragments.build lookup? parts = .error e →
      e.kind = .shape →
      parts.tables.getD [] = [] ∧ ∃ item ∈ parts.columns.getD [], ∃ v written,
        Fragments.columnItem item = .ok (.var v, written) ∧ v.parts = ["*"] ∧
          e = Fragments.tablesMissing v := by
  have hshaped := r.fragments_gives_shaped q parts h
  exact ⟨hshaped.columns, hshaped.tables, hshaped.filter, fun _ _ he hkind =>
    Fragments.build_shape_error hshaped he hkind⟩

/-- The statement `SELECT *, Count(id) AS n WHERE owner NOT IN ('a', 'b')` as it is read. -/
def tablelessQuery : QueryTree :=
  { body := .select
      { place := ⟨1, 1⟩
        items := [.wildcard ⟨1, 8⟩ {},
          .aliased (.call [⟨"Count", none, ⟨1, 11⟩⟩] {} [.term (.name ⟨"id", none, ⟨1, 17⟩⟩)])
            ⟨"n", none, ⟨1, 24⟩⟩]
        filter := some (.inList (.name ⟨"owner", none, ⟨1, 32⟩⟩)
          [.literal (.text "a"), .literal (.text "b")] true) } }

/-- Its parts. -/
def tablelessParts : Fragments :=
  { columns := some [.var ⟨["*"], some 7, none⟩,
      .aliased (.call .aggregate "Count" [.var ⟨["id"], some 16, none⟩]) "n"]
    clauses := some
      { filter := some (.binary .relational .notIn (.var ⟨["owner"], some 31, none⟩)
          (.list [.const (.text "a"), .const (.text "b")])) } }

/-- They have the shapes, and the asterisk is what the first of them is refused for. -/
theorem fragments_shaped_tableless : ∃ text,
    fragments ⟨text, .builtin⟩ tablelessQuery = .ok tablelessParts ∧
    (∀ item ∈ tablelessParts.columns.getD [], item.ColumnShaped) ∧
    (∀ filter ∈ tablelessParts.clauses.bind Clauses.filter, filter.Plain) ∧
    ∃ e, Fragments.build Fragments.ledger tablelessParts = .error e ∧ e.kind = .shape ∧
      ∃ item ∈ tablelessParts.columns.getD [], ∃ v written,
        Fragments.columnItem item = .ok (.var v, written) ∧ v.parts = ["*"] ∧
          e = Fragments.tablesMissing v := by
  have h : fragments ⟨.of .ansi "SELECT *, Count(id) AS n WHERE owner NOT IN ('a', 'b')", .builtin⟩
      tablelessQuery = .ok tablelessParts := by
    rfl
  have herror : Fragments.build Fragments.ledger tablelessParts =
      .error (Fragments.tablesMissing ⟨["*"], some 7, none⟩) := by
    rfl
  obtain ⟨hcolumns, -, hfilter, hbuild⟩ := fragments_shaped h
  exact ⟨_, h, hcolumns, hfilter, _, herror, rfl, (hbuild _ _ herror rfl).2⟩

end Reading

end Sql

end SelectBinding
