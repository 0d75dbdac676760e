import SelectBinding.Proofs.Text.Queries

/-!
Reading the text of a filter.

In front of whatever columns and tables, the text of an expression is read as a filter, and as the
expression regrouped. So a filter keeps its tree exactly when it is upright; signs that make a
comment together are no text of a filter.
-/

namespace SelectBinding

open Sql Sql.Grammar

variable {reader : Reader} {reserved : Reserved}

/-! ### What can be read -/

/-- The text of the expression can be read, the whole being an asterisk only where `asterisk` says
so: it is legible, is no list and has no more levels than are read. -/
structure Expr.Writable (reserved : Reserved) (asterisk : Bool) (e : Expr) : Prop where
  legible : e.legible reserved asterisk = true
  notList : e.isList = false
  levels : e.levels ≤ 48

instance (asterisk : Bool) (e : Expr) : Decidable (e.Writable reserved asterisk) :=
  decidable_of_iff (e.legible reserved asterisk = true ∧ e.isList = false ∧ e.levels ≤ 48)
    ⟨fun ⟨h, h', h''⟩ => ⟨h, h', h''⟩, fun h => ⟨h.legible, h.notList, h.levels⟩⟩

/-- The name can be read as that of a table. -/
def Reserved.MayBeTable (reserved : Reserved) (name : String) : Prop :=
  (reserved.token name).isKeyword "UNNEST" = false

instance (name : String) : Decidable (reserved.MayBeTable name) :=
  inferInstanceAs (Decidable (_ = _))

/-! ### What is said -/

lemma says_term (hreserved : reserved.IsComplete) {e : Expr} (h : e.Writable reserved false) :
    Says (derives reserved 48 0 0) (e.render reserved) e.regrouped :=
  ⟨_, e.prints hreserved h.legible, (e.derived h.legible h.notList).2 48 h.levels⟩

lemma says_column (hreserved : reserved.IsComplete) {e : Expr} (h : e.Writable reserved true) :
    Says (IsColumn reserved (derives reserved 48)) (e.render reserved) e.regrouped := by
  refine ⟨_, e.prints hreserved h.legible, ?_⟩
  rcases legible_cases h.legible with hlegible | ⟨-, v, rfl, hlegible, hasterisk⟩
  · exact .term ((e.derived hlegible h.notList).2 48 h.levels)
  · have hregrouped : (Expr.var v).regrouped = .var v.bare := rfl
    rw [hregrouped, Expr.tokens]
    rcases asterisk_tokens hlegible hasterisk with ⟨htokens, hbare⟩ | ⟨ts, parts, hpath, htokens, hbare⟩
    · rw [htokens, hbare]
      exact .asterisk
    · rw [htokens, hbare]
      exact .qualified hpath

lemma says_table (hreserved : reserved.IsComplete) {name : String} (h : reserved.MayBeTable name) :
    Says (IsTable reserved) (reserved.quote name) (.var ⟨[name], none, none⟩) :=
  ⟨_, prints_name hreserved name, .plain (reserved.isPart_token name) h⟩

/-! ### Filters -/

/-- The filter of the parts of a statement, without places and bindings. -/
def Fragments.filter? (parts : Fragments) : Option Expr :=
  (parts.clauses.bind Clauses.filter).map Expr.bare

/-- A filter behind columns and tables is read as the expression regrouped. -/
lemma filter_read (hdialect : reader.dialect = .ansi) (hreserved : reader.reserved.IsComplete)
    {columns : List Expr} {tables : List String} {e : Expr} (hne : columns ≠ [])
    (hcolumns : ∀ column ∈ columns, column.Writable reader.reserved true)
    (htables : ∀ name ∈ tables, reader.reserved.MayBeTable name)
    (he : e.Writable reader.reserved false) :
    ∃ parts, reader.parts? (Query.statementOf (columns.map (Expr.render reader.reserved))
        (tables.map reader.reserved.quote) (some (e.render reader.reserved)) []) = .ok parts ∧
      parts.filter? = some e.regrouped := by
  have hcolumns' : List.Forall₂ (Says (IsColumn reader.reserved (derives reader.reserved 48)))
      (columns.map (Expr.render reader.reserved)) (columns.map Expr.regrouped) := by
    rw [List.forall₂_map_left_iff, List.forall₂_map_right_iff, List.forall₂_same]
    exact fun column hcolumn => says_column hreserved (hcolumns column hcolumn)
  have htables' : List.Forall₂ (Says (IsTable reader.reserved))
      (tables.map reader.reserved.quote)
      (tables.map fun name => .var ⟨[name], none, none⟩) := by
    rw [List.forall₂_map_left_iff, List.forall₂_map_right_iff, List.forall₂_same]
    exact fun name hname => says_table hreserved (htables name hname)
  have hstatement := says_statementOf (o := ⟨_, _, some e.regrouped, []⟩) (by simpa using hne) hcolumns'
    htables' (.some (says_term hreserved he)) .nil
  obtain ⟨parts, hparts, hsaid⟩ := hstatement.parts hdialect hreserved
    (statementOf_not_blank _ _ _ _)
  exact ⟨parts, hparts, hsaid.filter⟩

/-- **Filters.** The text of an expression behind columns and tables is read as a filter, which is
the expression itself exactly when the expression is upright. -/
theorem filter_kept_iff (hdialect : reader.dialect = .ansi) (hreserved : reader.reserved.IsComplete)
    {columns : List Expr} {tables : List String} {e : Expr} (hne : columns ≠ [])
    (hcolumns : ∀ column ∈ columns, column.Writable reader.reserved true)
    (htables : ∀ name ∈ tables, reader.reserved.MayBeTable name)
    (he : e.Writable reader.reserved false) :
    ∃ parts, reader.parts? (Query.statementOf (columns.map (Expr.render reader.reserved))
        (tables.map reader.reserved.quote) (some (e.render reader.reserved)) []) = .ok parts ∧
      (parts.filter? = some e.bare ↔ e.upright = true) := by
  obtain ⟨parts, hparts, hfilter⟩ := filter_read hdialect hreserved hne hcolumns htables he
  exact ⟨parts, hparts, by rw [hfilter, Option.some.injEq, e.regrouped_eq_bare_iff]⟩

/-- A reader without tables. -/
def plainReader : Reader :=
  { catalog := fun _ => none }

/-- The filter `-amount IS NULL AND NOT owner IS NOT NULL`. -/
def signedFilter : Expr :=
  .operation (.unary .isNull (.unary .minus (.var ⟨["amount"], none, none⟩))) .and
    (.unary .not (.unary .isNotNull (.var ⟨["owner"], none, none⟩)))

theorem filter_kept_signed :
    plainReader.dialect = .ansi ∧ plainReader.reserved.IsComplete ∧ [Expr.named "owner"] ≠ [] ∧
    (Expr.named "owner").Writable plainReader.reserved true ∧
    plainReader.reserved.MayBeTable "accounts" ∧ signedFilter.Writable plainReader.reserved false ∧
    ∃ parts, plainReader.parts? (Query.statementOf
        ([Expr.named "owner"].map (Expr.render plainReader.reserved))
        (["accounts"].map plainReader.reserved.quote)
        (some (signedFilter.render plainReader.reserved)) []) = .ok parts ∧
      (parts.filter? = some signedFilter.bare ↔ signedFilter.upright = true) := by
  have hreserved : plainReader.reserved.IsComplete := fun _ h => h
  have hcolumn : (Expr.named "owner").Writable plainReader.reserved true := by decide +kernel
  have htable : plainReader.reserved.MayBeTable "accounts" := by decide +kernel
  have hfilter : signedFilter.Writable plainReader.reserved false := by decide +kernel
  exact ⟨rfl, hreserved, by simp, hcolumn, htable, hfilter,
    filter_kept_iff rfl hreserved (by simp) (by simpa using hcolumn) (by simpa using htable) hfilter⟩

/-- A minus before a minus, as `- -amount = 1` has it. -/
def doublyNegated : Expr :=
  .operation (.unary .minus (.unary .minus (.var ⟨["amount"], none, none⟩))) .eq
    (.const (.integer 1))

/-- The variable under two signs that is compared with one. -/
def underSigns? : Option Expr → Option Variable
  | some (.binary .relational .eq (.unary .minus (.unary .minus (.var v))) (.const (.integer 1))) =>
    some v
  | _ => none

/-- The text of a minus before a minus begins a comment, so a filter that was read is not read
again. -/
theorem double_minus_lost :
    (∃ parts, plainReader.parts? "SELECT owner FROM accounts WHERE - -amount = 1" = .ok parts ∧
      parts.filter? = some doublyNegated) ∧
    ∀ parts, plainReader.parts? ("SELECT owner FROM accounts WHERE " ++
        doublyNegated.render plainReader.reserved) = .ok parts →
      parts.filter? ≠ some doublyNegated := by
  constructor
  · obtain ⟨parts, h, hsigns⟩ := Except.exists_of_toOption_map
      (x := plainReader.parts? "SELECT owner FROM accounts WHERE - -amount = 1")
      (f := fun parts => underSigns? parts.filter?) (b := some ⟨["amount"], none, none⟩)
      (by decide +kernel)
    refine ⟨parts, h, ?_⟩
    simp only [underSigns?] at hsigns
    split at hsigns
    · rename_i hfilter
      rw [hfilter, Option.some.inj hsigns]
      rfl
    · simp at hsigns
  · intro parts h
    have herror : (plainReader.parts? ("SELECT owner FROM accounts WHERE " ++
        doublyNegated.render plainReader.reserved)).isOk = false := by decide +kernel
    rw [h] at herror
    exact absurd herror (by simp [Except.isOk, Except.toBool])

end SelectBinding
