import SelectBinding.Proofs.Build.Reread
import SelectBinding.Proofs.Sql.Shapes
import SelectBinding.Proofs.Sql.Stripping

/-!
Where the asterisks among the columns come from.

A name and a wildcard have one form: the parts of a variable, the last of which may be an asterisk.
Binding a variable asks for that part only, so a quoted name whose text is an asterisk is taken for
a wildcard. Every other name after `SELECT` is a declared field of its table.
-/

namespace SelectBinding

/-! ### Items -/

namespace Sql

/-- The last part of the name that a term is, whatever parentheses stand around it. -/
def Term.lastPart? : Term → Option Ident
  | .name ident => some ident
  | .path idents => idents.getLast?
  | .nested t => t.lastPart?
  | _ => none

/-- The last part of the name that an item is, with an alias or without one. -/
def SelectItem.lastPart? : SelectItem → Option Ident
  | .term t | .aliased t _ => t.lastPart?
  | .qualifiedWildcard _ _ | .wildcard _ _ => none

/-- Whether an item is an asterisk, perhaps after the name of a table. -/
def SelectItem.isWildcard : SelectItem → Bool
  | .qualifiedWildcard _ _ | .wildcard _ _ => true
  | .term _ | .aliased _ _ => false

/-- The last part that an item is read with, which is an asterisk if the item is one. -/
def SelectItem.shown? (item : SelectItem) : Option String :=
  if item.isWildcard then some "*" else item.lastPart?.map Ident.value

end Sql

/-- What a column is that was written as a name with a last part, or as none: an asterisk when the
part is one, else a field that its table declares under such a name. -/
inductive ColumnKind.Shows (sources : List Source) : Option String → ColumnKind → Prop where
  | asterisk (scope : Option Nat) : Shows sources (some "*") (.asterisk scope)
  | field {p : Nat} {source : Source} {name field : String} (hname : name ≠ "*")
      (hsource : sources[p]? = some source) (hfield : source.table.Declares field)
      (hagree : Name.agree field name = true) :
      Shows sources (some name) (.field ⟨source.table, field, some p⟩)
  | expression (e : Expr) : Shows sources none (.expression e)

namespace Expr

/-- The last part of the name that an expression is. -/
def lastPart? : Expr → Option String
  | .var v => v.parts.getLast?
  | _ => none

end Expr

/-! ### Binding -/

namespace Scope

variable {scope : Scope}

lemma shows_of_bindField {name : String} {b : Binding} {kind : ColumnKind} (hname : name ≠ "*")
    (h : scope.bindField name = .ok b) (hshows : Shows scope.sources b kind) :
    kind.Shows scope.sources (some name) := by
  obtain ⟨p, source, field, howner, rfl⟩ := bindField_ok_iff.mp h
  cases hshows with
  | field hsource =>
    obtain rfl := Option.some.inj (howner.at_.symm.trans hsource)
    exact .field hname hsource (Table.declares_of_field? howner.has)
      (Table.agree_of_field? howner.has)

lemma shows_of_bindQualified {key name : String} {b : Binding} {kind : ColumnKind}
    (h : scope.bindQualified key name = .ok b) (hshows : Shows scope.sources b kind) :
    kind.Shows scope.sources (some name) := by
  obtain ⟨-, hbind⟩ := bindQualified_ok_iff.mp h
  obtain ⟨p, -, hfound⟩ := bindByKey_ok_iff.mp hbind
  split at hfound
  · next hname =>
    subst hname hfound
    cases hshows
    exact .asterisk _
  · next hname =>
    obtain ⟨source, field, hsource, hfield, rfl⟩ := bindFieldAt_ok_iff.mp hfound
    cases hshows with
    | field hsource' =>
      obtain rfl := Option.some.inj (hsource.symm.trans hsource')
      exact .field hname hsource' (Table.declares_of_field? hfield) (Table.agree_of_field? hfield)

/-- **Names.** What a column shows is decided by the last part of the name that it was written
as. -/
lemma shows_of_makes {e : Expr} {kind : ColumnKind} (h : scope.Makes scope.sources e kind) :
    kind.Shows scope.sources e.lastPart? := by
  cases h with
  | @name v b _ hbind hshows =>
    have hparts := bind_ok_iff.mp hbind
    unfold bindParts at hparts
    rw [Expr.lastPart?]
    split at hparts
    · next hasterisk =>
      obtain rfl := Except.ok.inj hparts
      cases hshows
      rw [hasterisk]
      exact .asterisk none
    · next name hname hsingle =>
      rw [hsingle]
      refine shows_of_bindField ?_ hparts hshows
      rintro rfl
      exact hname rfl
    · next key name hqualified =>
      rw [hqualified]
      exact shows_of_bindQualified hparts hshows
    · cases hparts
  | @expression _ e' hvariable _ =>
    have hnone : e.lastPart? = none := by
      cases e <;> simp_all [Expr.lastPart?, Expr.isVariable]
    rw [hnone]
    exact .expression e'

end Scope

/-! ### Reading -/

namespace Sql.Reading

variable (r : Reading)

lemma variableOf_lastPart (idents : List Ident) :
    Gives (fun v => (Expr.var v).lastPart? = (idents.map Ident.value).getLast?)
      (r.variableOf idents) :=
  fun v h => congrArg List.getLast? (r.variableOf_gives idents v h)

lemma asterisk_lastPart (idents : List Ident) (place : Option Nat) :
    Gives (fun v => (Expr.var v).lastPart? = some "*") (r.asterisk idents place) := by
  intro v h
  rw [Expr.lastPart?, r.asterisk_gives idents place v h, List.getLast?_concat]

/-- A name is read with its last part, and nothing else is read as a name. -/
lemma expr_lastPart (select : Nat) (t : Term) :
    Gives (fun e => e.lastPart? = t.lastPart?.map Ident.value) (r.expr select t) := by
  cases t with
  | name ident => exact (r.variableOf_lastPart [ident]).bind fun _ hv => .ok hv
  | path idents =>
    refine (r.variableOf_lastPart idents).bind fun _ hv => .ok ?_
    rw [hv, Term.lastPart?, List.getLast?_map]
  | nested t => exact expr_lastPart select t
  | literal l => exact .after fun _ => .ok rfl
  | unary op t => exact .after fun _ => .after fun _ => .ok rfl
  | isNull t => exact .after fun _ => .ok rfl
  | isNotNull t => exact .after fun _ => .ok rfl
  | binary left op right => exact .after fun _ => .after fun _ => .after fun _ => .ok rfl
  | like negated any left pattern escape =>
    exact .ite .error <| .ite .error <| .after fun _ => .after fun _ => .ok rfl
  | inList left items negated => exact .after fun _ => .after fun _ => .ok rfl
  | between subject negated low high =>
    refine .after fun _ => .after fun _ => .after fun _ => .ok ?_
    cases negated <;> rfl
  | call name shape args =>
    exact .after fun _ => .after fun _ => .after fun _ => .after fun _ => .ok rfl
  | subquery text => exact .error
  | aboutSubquery text => exact .error
  | other text => exact .error

/-- A plain expression is a column without an alias. -/
lemma columnItem_of_plain {e : Expr} (h : e.Plain) : Fragments.columnItem e = .ok (e, none) := by
  cases h <;> rfl

/-- What an item is read as shows the last part of the item. -/
lemma column_lastPart (select : Nat) (item : SelectItem) :
    Gives (fun e => ∀ expr aliasName, Fragments.columnItem e = .ok (expr, aliasName) →
      expr.lastPart? = item.shown?) (r.column select item) := by
  have hbare {e : Expr} (hplain : e.Plain) (hlast : e.lastPart? = item.shown?) :
      ∀ expr aliasName, Fragments.columnItem e = .ok (expr, aliasName) →
        expr.lastPart? = item.shown? := by
    intro expr aliasName h
    rw [columnItem_of_plain hplain] at h
    obtain ⟨rfl, -⟩ := Prod.mk.inj (Except.ok.inj h)
    exact hlast
  cases item with
  | term t => exact fun e he => hbare (r.expr_plain select t e he) (r.expr_lastPart select t e he)
  | aliased t aliasName =>
    refine (r.expr_lastPart select t).bind fun e he => .after fun name => .ok ?_
    rintro _ _ ⟨⟩
    exact he
  | qualifiedWildcard name options =>
    refine .after fun _ => (r.asterisk_lastPart name none).bind fun v hv => .ok ?_
    rintro _ _ ⟨⟩
    exact hv
  | wildcard place options =>
    refine .after fun _ => (r.asterisk_lastPart [] _).bind fun v hv => .ok ?_
    rintro _ _ ⟨⟩
    exact hv

end Sql.Reading

/-! ### Columns -/

/-- An item after `SELECT` and the column that it has become. -/
structure Sql.SelectItem.Becomes (sources : List Source) (item : SelectItem) (column : Column) :
    Prop where
  /-- The column is an asterisk if the item is one, or a name whose last part is. -/
  asterisk_iff : column.kind.isAsterisk = true ↔
    item.isWildcard = true ∨ ∃ ident ∈ item.lastPart?, ident.value = "*"
  /-- Every other name is a declared field of its table. -/
  field : ∀ ident ∈ item.lastPart?, ident.value ≠ "*" → ∃ p source field,
    column.kind = .field ⟨source.table, field, some p⟩ ∧ sources[p]? = some source ∧
      source.table.Declares field ∧ Name.agree field ident.value = true
  /-- What is no name stays an expression. -/
  expression : item.isWildcard = false → item.lastPart? = none → column.kind.isExpression = true

lemma Sql.SelectItem.becomes_of_shows {sources : List Source} {item : SelectItem} {column : Column}
    (h : column.kind.Shows sources item.shown?) : item.Becomes sources column := by
  cases hwildcard : item.isWildcard with
  | true =>
    have hnone : item.lastPart? = none := by
      cases item <;> simp_all [isWildcard, lastPart?]
    rw [shown?, if_pos hwildcard] at h
    generalize hkind : column.kind = kind at h
    cases h with
    | asterisk scope =>
      exact ⟨by simp [hkind, ColumnKind.isAsterisk, hwildcard], by simp [hnone],
        by simp [hwildcard]⟩
    | field hname => exact absurd rfl hname
  | false =>
    rw [shown?, if_neg (by simp [hwildcard])] at h
    generalize hkind : column.kind = kind at h
    cases hlast : item.lastPart? with
    | none =>
      rw [hlast] at h
      cases h
      exact ⟨by simp [hkind, ColumnKind.isAsterisk, hwildcard, hlast], by simp [hlast],
        fun _ _ => by rw [hkind]; rfl⟩
    | some ident =>
      rw [hlast, Option.map_some] at h
      generalize hvalue : ident.value = value at h
      cases h with
      | asterisk scope =>
        exact ⟨by simp [hkind, ColumnKind.isAsterisk, hlast, hvalue], by simp [hlast, hvalue],
          by simp [hlast]⟩
      | @field p source name field hname hsource hfield hagree =>
        refine ⟨by simp [hkind, ColumnKind.isAsterisk, hwildcard, hlast, hvalue, hname], ?_,
          by simp [hlast]⟩
        intro ident' hident' _
        obtain rfl := Option.some.inj (hlast.symm.trans hident')
        exact ⟨p, source, field, hkind, hsource, hfield, hvalue ▸ hagree⟩

namespace Reader

variable {reader : Reader} {sql : String}

/-- **Asterisks.** The items after `SELECT` become the columns of the query one by one. A column is
an asterisk exactly when its item is one or a name whose last part has an asterisk for its text,
since binding does not know of quotes. Every other name becomes a field that its table declares
under a name that agrees with it, and everything else an expression. -/
theorem items_become_columns {q : Query} (h : reader.query sql = .ok q) :
    ∃ tree s, Sql.statementsOf reader.dialect sql = .ok [.query tree] ∧ tree.body = .select s ∧
      List.Forall₂ (Sql.SelectItem.Becomes q.sources) s.items q.columns := by
  obtain ⟨parts, built, hparts, hbuilt, rfl⟩ := query_ok_iff.mp h
  obtain ⟨tree, hstatements, hfragments⟩ := fragments_of_parts? hparts
  obtain ⟨s, select, hbody, hcolumns⟩ := Sql.Reading.fragments_columns hfragments
  obtain ⟨tables, columns, filter, ordering, -, hmakes, -, rfl, -⟩ := Fragments.build_parts hbuilt
  refine ⟨tree, s, hstatements, hbody, (forall₂_comp hcolumns hmakes).imp ?_⟩
  rintro item column ⟨e, he, expr, aliasName, kind, hitem, -, hkind, rfl⟩
  have hlast := (reader.reading sql).column_lastPart select item e he expr aliasName hitem
  exact Sql.SelectItem.becomes_of_shows (hlast ▸ Scope.shows_of_makes hkind)

/-- A statement with an asterisk, a name in quotes and an expression. -/
def starredStatement : String :=
  "SELECT a.*, (\"OWNER\") AS o, id + 1 FROM accounts a"

theorem items_become_columns_starred : ∃ q tree s,
    ledgerReader.query starredStatement = .ok q ∧
      Sql.statementsOf .ansi starredStatement = .ok [.query tree] ∧ tree.body = .select s ∧
      List.Forall₂ (Sql.SelectItem.Becomes q.sources) s.items q.columns := by
  obtain ⟨q, h⟩ := Except.exists_of_isOk
    (x := ledgerReader.query starredStatement) (by decide +kernel)
  obtain ⟨tree, s, hrest⟩ := items_become_columns h
  exact ⟨q, tree, s, h, hrest⟩

/-- Whether all items of a statement are names in quotes. -/
def quotedItems : List Sql.StatementTree → Bool
  | [.query { body := .select s, .. }] =>
    s.items.all fun item => !item.isWildcard && item.lastPart?.any fun ident => ident.quote.isSome
  | _ => false

/-- A name in quotes whose text is an asterisk stands for all fields, whether or not there is one
that is called so. -/
theorem quoted_asterisk_expanded : ∃ q statements,
    ledgerReader.query "SELECT \"*\" FROM accounts" = .ok q ∧
      Sql.statementsOf .ansi "SELECT \"*\" FROM accounts" = .ok statements ∧
      quotedItems statements = true ∧ q.columns.map (·.kind.isAsterisk) = [true] := by
  obtain ⟨q, h, hasterisk⟩ := Except.exists_of_toOption_map
    (x := ledgerReader.query "SELECT \"*\" FROM accounts")
    (f := fun q => q.columns.map (·.kind.isAsterisk)) (b := [true]) (by decide +kernel)
  obtain ⟨statements, hstatements, hquoted⟩ := Except.exists_of_toOption_map
    (x := Sql.statementsOf .ansi "SELECT \"*\" FROM accounts") (f := quotedItems) (b := true)
    (by decide +kernel)
  exact ⟨q, statements, h, hstatements, hquoted, hasterisk⟩

end Reader

end SelectBinding
