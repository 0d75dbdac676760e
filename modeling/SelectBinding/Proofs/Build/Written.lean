import SelectBinding.Proofs.Build.Sorting
import SelectBinding.Proofs.Query.Generated

/-!
Building a query again from the parts that its text is made of.

A text names tables by their names, fields and asterisks by the key of their table where only one
table goes by it, and everything else as the statement did. The query that is built from these
parts is like the first one exactly when the names keep what they stand for.
-/

namespace SelectBinding

/-! ### Queries that are alike -/

/-- What a column stands for, with any expression as good as any other. -/
def ColumnKind.outline : ColumnKind → ColumnKind
  | .expression _ => .expression (.const .null)
  | kind => kind

/-- A column, with any expression as good as any other. -/
def Column.outline (column : Column) : Column :=
  { column with kind := column.kind.outline }

/-- Only expressions have an outline of their own. -/
lemma ColumnKind.outline_eq_iff {kind kind' : ColumnKind} (hkind : kind.isExpression = false) :
    kind'.outline = kind.outline ↔ kind' = kind := by
  cases kind <;> cases kind' <;> simp_all [outline, isExpression]

lemma ColumnKind.isExpression_outline (kind : ColumnKind) :
    kind.outline.isExpression = kind.isExpression := by
  cases kind <;> rfl

namespace Query

/-- Two queries have the same tables, the same columns but for what expressions say, and the same
columns once asterisks are written out. -/
structure Alike (q q' : Query) : Prop where
  sources : q'.sources = q.sources
  columns : q'.columns.map Column.outline = q.columns.map Column.outline
  expanded : q'.expanded = q.expanded

lemma columnAlias?_congr {q q' : Query}
    (h : q'.columns.map Column.outline = q.columns.map Column.outline) (index : Nat) :
    q'.columnAlias? index = q.columnAlias? index := by
  have hget {β : Type} {f : Column → β} (hf : ∀ column, f column.outline = f column) (i : Nat) :
      q'.columns[i]?.map f = q.columns[i]?.map f := by
    have hmap := congrArg (fun columns => columns[i]?.map f) h
    simpa only [List.getElem?_map, Option.map_map, Function.comp_def, hf] using hmap
  have hkind (column : Column) : column.outline.kind.isExpression = column.kind.isExpression :=
    ColumnKind.isExpression_outline column.kind
  exact SameName.columnAlias? ⟨fun i _ => hget hkind i, hget (fun _ => rfl) index⟩

/-- The columns of queries that are alike expand to the same. -/
lemma expandFrom_of_outline {q q' : Query} (hs : q'.sources = q.sources)
    (h : q'.columns.map Column.outline = q.columns.map Column.outline) (index : Nat)
    {columns columns' : List Column}
    (hc : columns'.map Column.outline = columns.map Column.outline) :
    q'.expandFrom index columns' = q.expandFrom index columns := by
  induction columns generalizing index columns' with
  | nil =>
    obtain rfl : columns' = [] := by simpa using hc
    rfl
  | cons column rest ih =>
    rcases columns' with _ | ⟨column', rest'⟩
    · simp at hc
    · simp only [List.map_cons, List.cons.injEq] at hc
      obtain ⟨houtline, hrest⟩ := hc
      rw [expandFrom, expandFrom, ih (index + 1) hrest]
      congr 1
      obtain ⟨kind', alias', visible'⟩ := column'
      obtain ⟨kind, aliasName, visible⟩ := column
      simp only [Column.outline, Column.mk.injEq] at houtline
      obtain ⟨hkind, rfl, rfl⟩ := houtline
      have hfields : q'.fieldsAt = q.fieldsAt := by
        funext i v p
        simp only [fieldsAt, hs]
      cases kind' <;> cases kind <;>
        simp_all [ColumnKind.outline, expandColumn, columnAlias?_congr h]

lemma alike_of_outline {q q' : Query} (hs : q'.sources = q.sources)
    (h : q'.columns.map Column.outline = q.columns.map Column.outline) : q.Alike q' :=
  ⟨hs, h, expandFrom_of_outline hs h 0 h⟩

/-! ### The parts that write a query -/

/-- The name that a text has for a field of the table at `position`. -/
def writtenName (q : Query) (position : Nat) (field : String) : List String :=
  match q.sources[position]? with
  | none => [field]
  | some source =>
    if q.sources.countP (fun other => Name.agree other.key source.key) = 1 then [source.key, field]
    else [field]

/-- An item after `FROM` writes a table. -/
def WritesSource (source : Source) (item : Expr) : Prop :=
  ∃ v, Fragments.tableItem item = .ok (v, source.aliasName) ∧ v.parts = [source.table.name]

/-- An expression writes another one as far as its names and asterisks go. -/
structure WritesNames (asterisk : Bool) (e written : Expr) : Prop where
  admissible : written.Admissible asterisk
  names : written.allVariables.map Variable.parts = e.allVariables.map Variable.parts

/-- An expression without an alias writes what a column stands for. -/
inductive WritesKind (q : Query) : ColumnKind → Expr → Prop where
  | field {f : FieldColumn} {p : Nat} {v : Variable} (hp : f.position = some p)
      (hv : v.parts = q.writtenName p f.field) : WritesKind q (.field f) (.var v)
  | asterisk {v : Variable} (hv : v.parts = ["*"]) : WritesKind q (.asterisk none) (.var v)
  | tableAsterisk {p : Nat} {source : Source} {v : Variable} (hp : q.sources[p]? = some source)
      (hv : v.parts = [source.key, "*"]) : WritesKind q (.asterisk (some p)) (.var v)
  | expression {e written : Expr} (hvariable : written.isVariable = false)
      (hlist : written.isList = false) (h : WritesNames true e written) :
      WritesKind q (.expression e) written

/-- A column item writes a column. -/
def WritesColumn (q : Query) (column : Column) (item : Expr) : Prop :=
  ∃ written, Fragments.columnItem item = .ok (written, column.aliasName) ∧
    q.WritesKind column.kind written

/-- A sorting criterion, as it is written, writes one of a query. -/
inductive WritesTarget (q : Query) : SortTarget → SortItem → Prop where
  | aliased {index : Nat} {column : Column} {name : String} {item : SortItem}
      (hc : q.columns[index]? = some column) (hk : column.kind.isAsterisk = false)
      (ha : column.aliasName = some name) (hitem : item.parts = [name]) :
      WritesTarget q (.column index) item
  | listed {index : Nat} {column : Column} {f : FieldColumn} {p : Nat} {item : SortItem}
      (hc : q.columns[index]? = some column) (ha : column.aliasName = none)
      (hk : column.kind = .field f) (hp : f.position = some p)
      (hitem : item.parts = q.writtenName p f.field) (hn : item.number = none) :
      WritesTarget q (.column index) item
  | number {index : Nat} {item : SortItem} (hitem : item.parts = [toString (index + 1)])
      (hn : item.number = some (index + 1)) : WritesTarget q (.number index) item
  | field {p : Nat} {name : String} {item : SortItem} (hitem : item.parts = q.writtenName p name)
      (hn : item.number = none) : WritesTarget q (.field p name) item

/-- A sorting criterion, as it is written, writes one of a query in the same direction. -/
def WritesKey (q : Query) (key : SortKey) (item : SortItem) : Prop :=
  q.WritesTarget key.target item ∧ item.ascending = key.ascending

/-- The parts of a statement write a query. -/
structure WrittenBy (q : Query) (parts : Fragments) : Prop where
  tables : List.Forall₂ WritesSource q.sources (parts.tables.getD [])
  columns : List.Forall₂ q.WritesColumn q.columns (parts.columns.getD [])
  filter : (q.filter = none ∧ parts.clauses.bind Clauses.filter = none) ∨
    ∃ e written, q.filter = some e ∧ parts.clauses.bind Clauses.filter = some written ∧
      WritesNames false e written
  ordering : List.Forall₂ q.WritesKey q.ordering ((parts.clauses.map Clauses.ordering).getD [])

/-! ### Names that keep what they stand for -/

/-- The tables of a query, each registered under its own key. -/
def ownScope (q : Query) : Scope :=
  .ofSources q.sources

/-- What is written for a column stands for the column. -/
def KindKeeps (q : Query) : ColumnKind → Prop
  | .field f => ∀ p, f.position = some p →
    q.ownScope.bindParts (q.writtenName p f.field) = .ok (.field p f.field)
  | .asterisk none => q.sources ≠ []
  | .asterisk (some p) => ∀ source, q.sources[p]? = some source →
    q.ownScope.bindParts [source.key, "*"] = .ok (.tableAsterisk p)
  | .expression e => ∀ v ∈ e.allVariables, q.ownScope.Binds v

/-- The names that are written for a query stand for its tables and columns, and those in its
expressions for anything at all. -/
structure NamesKeep (q : Query) (lookup? : Lookup) : Prop where
  tables : ∀ source ∈ q.sources, lookup? source.table.name = some source.table
  columns : ∀ column ∈ q.columns, q.KindKeeps column.kind
  filter : ∀ e, q.filter = some e → ∀ v ∈ e.allVariables, q.ownScope.Binds v

instance (scope : Scope) (v : Variable) : Decidable (scope.Binds v) :=
  decidable_of_iff ((scope.bind v).isOk = true)
    ⟨Except.exists_of_isOk, fun ⟨_, h⟩ => by rw [h]; rfl⟩

instance (q : Query) : (kind : ColumnKind) → Decidable (q.KindKeeps kind)
  | .field f => inferInstanceAs (Decidable (∀ p ∈ f.position, _))
  | .asterisk none => decidable_of_iff (q.sources.isEmpty = false) List.isEmpty_eq_false_iff
  | .asterisk (some p) => inferInstanceAs (Decidable (∀ source ∈ q.sources[p]?, _))
  | .expression e => inferInstanceAs (Decidable (∀ v ∈ e.allVariables, q.ownScope.Binds v))

instance (q : Query) (lookup? : Lookup) : Decidable (q.NamesKeep lookup?) :=
  decidable_of_iff
    ((∀ source ∈ q.sources, lookup? source.table.name = some source.table) ∧
      (∀ column ∈ q.columns, q.KindKeeps column.kind) ∧
      ∀ e ∈ q.filter, ∀ v ∈ e.allVariables, q.ownScope.Binds v)
    ⟨fun ⟨h, h', h''⟩ => ⟨h, h', h''⟩, fun h => ⟨h.tables, h.columns, h.filter⟩⟩

lemma binds_iff {scope : Scope} {v : Variable} :
    scope.Binds v ↔ ∃ b, scope.bindParts v.parts = .ok b := by
  simp only [Scope.Binds, Scope.bind_ok_iff]

lemma WritesNames.binds_iff {asterisk : Bool} {e written : Expr}
    (h : WritesNames asterisk e written) (scope : Scope) :
    (∀ v ∈ written.allVariables, scope.Binds v) ↔ ∀ v ∈ e.allVariables, scope.Binds v := by
  have hparts : ∀ l : List Variable, (∀ v ∈ l, scope.Binds v) ↔
      ∀ parts ∈ l.map Variable.parts, ∃ b, scope.bindParts parts = .ok b := by
    intro l
    simp only [Query.binds_iff, List.forall_mem_map]
  rw [hparts, hparts, h.names]

lemma WritesNames.resolve_isOk_iff {asterisk : Bool} {e written : Expr}
    (h : WritesNames asterisk e written) (scope : Scope) :
    (∃ e', scope.resolve asterisk written = .ok e') ↔ ∀ v ∈ e.allVariables, scope.Binds v := by
  rw [scope.resolve_isOk_iff, ← h.binds_iff]
  exact and_iff_right h.admissible

lemma bindParts_asterisk (scope : Scope) : scope.bindParts ["*"] = .ok .allTables := rfl

lemma not_shows_expression {sources : List Source} {b : Binding} {e : Expr} :
    ¬ Scope.Shows sources b (.expression e) := by
  rintro ⟨⟩

lemma bind_givenAlias {aliasName : Option String} (h : aliasName ≠ some "") :
    aliasName.bind givenAlias = aliasName := by
  cases aliasName with
  | none => rfl
  | some name => simpa [givenAlias, String.isEmpty_iff] using h

lemma makes_var_iff {scope : Scope} {sources : List Source} {v : Variable} {kind : ColumnKind} :
    scope.Makes sources (.var v) kind ↔
      ∃ b, scope.bind v = .ok b ∧ Scope.Shows sources b kind := by
  constructor
  · intro h
    cases h with
    | name hbind hshows => exact ⟨_, hbind, hshows⟩
    | expression hvariable _ => simp [Expr.isVariable] at hvariable
  · rintro ⟨b, hbind, hshows⟩
    exact .name hbind hshows

lemma shows_field_iff {sources : List Source} {b : Binding} {f : FieldColumn} {p : Nat}
    (hp : f.position = some p) :
    Scope.Shows sources b (.field f) ↔
      b = .field p f.field ∧ ∃ source, sources[p]? = some source ∧ f.table = source.table := by
  constructor
  · intro h
    cases h with
    | field hsource =>
      obtain rfl := Option.some.inj hp
      exact ⟨rfl, _, hsource, rfl⟩
  · rintro ⟨rfl, source, hsource, htable⟩
    obtain ⟨table, name, position⟩ := f
    subst hp htable
    exact .field hsource

lemma shows_asterisk_iff {sources : List Source} {b : Binding} :
    Scope.Shows sources b (.asterisk none) ↔ b = .allTables ∧ sources ≠ [] := by
  constructor
  · rintro ⟨⟩
    exact ⟨rfl, by assumption⟩
  · rintro ⟨rfl, hs⟩
    exact .allTables hs

lemma shows_tableAsterisk_iff {sources : List Source} {b : Binding} {p : Nat} :
    Scope.Shows sources b (.asterisk (some p)) ↔ b = .tableAsterisk p := by
  constructor
  · rintro ⟨⟩
    rfl
  · rintro rfl
    exact .tableAsterisk

/-- A name makes a column like one that is no expression only by making this column. -/
lemma makes_name_iff {scope : Scope} {sources : List Source} {v : Variable} {kind : ColumnKind}
    (hkind : kind.isExpression = false) :
    (∃ kind', scope.Makes sources (.var v) kind' ∧ kind'.outline = kind.outline) ↔
      ∃ b, scope.bind v = .ok b ∧ Scope.Shows sources b kind := by
  simp only [ColumnKind.outline_eq_iff hkind, exists_eq_right, makes_var_iff]

/-- What is written for a column makes a column for the same exactly when the names keep what they
stand for. -/
lemma makes_written_iff {q : Query} {kind : ColumnKind} {written : Expr}
    (hwell : kind.WellBound q.sources) (hwrites : q.WritesKind kind written) :
    (∃ kind', q.ownScope.Makes q.sources written kind' ∧ kind'.outline = kind.outline) ↔
      q.KindKeeps kind := by
  cases hwrites with
  | @field f p v hp hv =>
    obtain ⟨p', source, hp', hsource, htable, -⟩ := hwell
    obtain rfl := Option.some.inj (hp.symm.trans hp')
    rw [makes_name_iff rfl]
    simp [shows_field_iff hp, KindKeeps, hp, hsource, htable, Scope.bind_ok_iff, hv]
  | asterisk hv =>
    rw [makes_name_iff rfl]
    simp [shows_asterisk_iff, KindKeeps, Scope.bind_ok_iff, hv, bindParts_asterisk]
  | @tableAsterisk p source v hp hv =>
    rw [makes_name_iff rfl]
    simp [shows_tableAsterisk_iff, KindKeeps, hp, Scope.bind_ok_iff, hv]
  | @expression e written hvariable hlist h =>
    simp only [KindKeeps, ← h.resolve_isOk_iff]
    constructor
    · rintro ⟨kind', hmakes, -⟩
      cases hmakes with
      | expression _ hresolve => exact ⟨_, hresolve⟩
      | name _ _ => simp [Expr.isVariable] at hvariable
    · rintro ⟨e', hresolve⟩
      exact ⟨_, .expression hvariable hresolve, rfl⟩

lemma mayBeColumn_of_writes {q : Query} {kind : ColumnKind} {written : Expr}
    (h : q.WritesKind kind written) : Fragments.mayBeColumn written = true := by
  cases h with
  | expression hvariable hlist h =>
    have := h.admissible
    cases written <;> simp_all [Fragments.mayBeColumn, Expr.isList, Expr.Admissible]
  | _ => rfl

/-- The same for a column with its alias. -/
lemma makesColumn_written_iff {q : Query} {column : Column} {item : Expr}
    (hwell : column.kind.WellBound q.sources) (halias : column.aliasName ≠ some "")
    (hvisible : column.visible = true) (hwrites : q.WritesColumn column item) :
    (∃ column', Fragments.MakesColumn q.ownScope q.sources item column' ∧
      column'.outline = column.outline) ↔ q.KindKeeps column.kind := by
  obtain ⟨written, hitem, hkind⟩ := hwrites
  rw [← makes_written_iff hwell hkind]
  constructor
  · rintro ⟨_, ⟨expr, aliasName, kind', hitem', -, hmakes, rfl⟩, houtline⟩
    obtain ⟨rfl, rfl⟩ := Prod.mk.inj (Except.ok.inj (hitem.symm.trans hitem'))
    exact ⟨kind', hmakes, congrArg Column.kind houtline⟩
  · rintro ⟨kind', hmakes, houtline⟩
    refine ⟨_, ⟨written, _, kind', hitem, mayBeColumn_of_writes hkind, hmakes, rfl⟩, ?_⟩
    obtain ⟨kind, aliasName, visible⟩ := column
    simp_all [Column.outline, bind_givenAlias]

/-- The columns that are written make columns for the same exactly when all names keep what they
stand for. -/
lemma makesColumns_written_iff {q : Query} {columns : List Column} {items : List Expr}
    (hwell : ∀ column ∈ columns, column.kind.WellBound q.sources ∧ column.aliasName ≠ some "" ∧
      column.visible = true) (hwrites : List.Forall₂ q.WritesColumn columns items) :
    (∃ columns', List.Forall₂ (Fragments.MakesColumn q.ownScope q.sources) items columns' ∧
      columns'.map Column.outline = columns.map Column.outline) ↔
      ∀ column ∈ columns, q.KindKeeps column.kind := by
  induction hwrites with
  | nil => simp
  | @cons column item columns items hcolumn _ ih =>
    obtain ⟨hkind, halias, hvisible⟩ := hwell column (by simp)
    have hfirst := makesColumn_written_iff hkind halias hvisible hcolumn
    have hrest := ih fun c hc => hwell c (by simp [hc])
    simp only [List.forall_mem_cons, ← hfirst, ← hrest, List.forall₂_cons_left_iff]
    constructor
    · rintro ⟨_, ⟨column', columns', hmakes, hmore, rfl⟩, houtline⟩
      simp only [List.map_cons, List.cons.injEq] at houtline
      exact ⟨⟨column', hmakes, houtline.1⟩, columns', hmore, houtline.2⟩
    · rintro ⟨⟨column', hmakes, houtline⟩, columns', hmore, houtlines⟩
      exact ⟨_, ⟨column', columns', hmakes, hmore, rfl⟩, by simp [houtline, houtlines]⟩

end Query

end SelectBinding
