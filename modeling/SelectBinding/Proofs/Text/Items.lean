import SelectBinding.Proofs.Text.Filters
import SelectBinding.Proofs.Text.Regrouped

/-!
The columns, the tables and the sorting criteria of a query say what they stand for.

Whatever is read of their texts writes them again: tables by their names, fields and asterisks by
the key of their table where only one table goes by it, expressions with the names that they had.
-/

namespace SelectBinding

open Sql Sql.Grammar

namespace Query

/-! ### What can be read -/

section Legible

variable (q : Query) (reserved : Reserved)

/-- Whether the name that is written for a field may stand as one. -/
def legibleField (position : Nat) (field : String) : Bool :=
  (q.writtenName position field).head?.any reserved.mayBegin

/-- Whether the text of what a column stands for is read as that. -/
def legibleKind : ColumnKind → Bool
  | .field f => f.position.all fun position => q.legibleField reserved position f.field
  | .asterisk _ => true
  | .expression e => decide (e.Writable reserved false)

/-- Whether the text of a column is read as that column: no asterisk may have an alias. -/
def legibleColumn (column : Column) : Bool :=
  q.legibleKind reserved column.kind &&
    (column.aliasName.isNone || !column.kind.isAsterisk)

/-- Whether the text of a sorting criterion is read as one: an expression may not be one. -/
def legibleTarget : SortTarget → Bool
  | .column index =>
    match q.columns[index]? with
    | some { aliasName := some aliasName, .. } => reserved.mayBegin aliasName
    | some { kind := .field f, .. } => q.legibleKind reserved (.field f)
    | _ => false
  | .number _ => true
  | .field position field => q.legibleField reserved position field

end Legible

variable {q : Query} {reserved : Reserved}

/-! ### Names -/

/-- The text says a name with these parts, which may stand as one. -/
def SaysName (reserved : Reserved) (text : String) (parts : List String) : Prop :=
  ∃ t ts, Prints text.toList (t :: ts) ∧ IsPath reserved (t :: ts) parts ∧
    t.isOneOf nameForms = false

lemma saysName_quote (hreserved : reserved.IsComplete) {name : String}
    (h : reserved.mayBegin name = true) : SaysName reserved (reserved.quote name) [name] :=
  ⟨_, [], prints_name hreserved name, .last (reserved.isPart_token name),
    by simpa [Reserved.mayBegin] using h⟩

/-- A field is written as a name. -/
lemma saysName_field (hreserved : reserved.IsComplete) {position : Nat} {field : String}
    (h : q.legibleField reserved position field = true) :
    SaysName reserved (q.renderField reserved position field) (q.writtenName position field) := by
  unfold legibleField writtenName at h
  unfold renderField writtenName
  cases hsource : q.sources[position]? with
  | none => exact saysName_quote hreserved (by simpa [hsource] using h)
  | some source =>
    by_cases hunique : q.sources.countP (fun other => Name.agree other.key source.key) = 1
    · simp only [hsource, hunique, if_true, List.head?_cons, Option.any_some] at h ⊢
      obtain ⟨hfield, c, cs, hcs, -, hdigit⟩ := name_spells reserved field
      have hprints := prints_pointed hreserved source.key hfield
        (by simpa using token_tame hreserved field) hcs hdigit
      exact ⟨_, _, by simpa using hprints,
        .more (reserved.isPart_token source.key) (.last (reserved.isPart_token field)),
        by simpa [Reserved.mayBegin] using h⟩
    · simp only [hsource, hunique, if_false, List.head?_cons, Option.any_some] at h ⊢
      exact saysName_quote hreserved h

/-- A name is a term. -/
lemma SaysName.term {text : String} {parts : List String} (h : SaysName reserved text parts)
    (depth : Nat) :
    Says (derives reserved (depth + 1) 0 0) text (.var ⟨parts, none, none⟩) := by
  obtain ⟨t, ts, hprints, hpath, hform⟩ := h
  have hoperand : IsOperand reserved (derives reserved depth) 0 (t :: ts)
      (.var ⟨parts, none, none⟩) := .primary (.name hpath hform)
  have hterm := Above.mk hoperand (.done (Nat.le_refl 0))
  rw [List.append_nil] at hterm
  exact ⟨t :: ts, hprints, hterm⟩

/-! ### Columns -/

/-- The text says an item, and whatever is read as that item has the property. -/
def SaysWritten {α : Type} (one : List Token → α → Prop) (bare : α → α) (text : String)
    (writes : α → Prop) : Prop :=
  ∃ item, Says one text item ∧ ∀ read, bare read = item → writes read

/-- The key of a table and a point stand before an asterisk. -/
lemma says_tableAsterisk (hreserved : reserved.IsComplete) (key : String) (level : Level) :
    Says (IsColumn reserved level) (reserved.quote key ++ ".*") (.var ⟨[key, "*"], none, none⟩) := by
  have hasterisk : Tokenizer.Spells .ansi Tokenizer.EndsWord ['*'] [.sign "*"] :=
    (Tokenizer.spells_mark (by decide : ('*', "*") ∈ Tokenizer.marks)).mono fun _ _ => trivial
  have htame : Tame (.sign "*") := by decide
  have hprints := prints_pointed hreserved key hasterisk (by simpa using htame) rfl (by decide)
  exact ⟨_, by simpa using hprints, .qualified (.last (reserved.isPart_token key))⟩

lemma says_asterisk (reserved : Reserved) (level : Level) :
    Says (IsColumn reserved level) "*" (.var ⟨["*"], none, none⟩) := by
  have htame : Tame (.sign "*") := by decide
  refine ⟨[.sign "*"], ⟨?_, by simpa using htame, '*', [], rfl, by decide, by decide⟩, .asterisk⟩
  exact (Tokenizer.spells_mark (by decide : ('*', "*") ∈ Tokenizer.marks)).mono fun _ _ => trivial

/-- An expression that is read as another one regrouped has its names. -/
lemma writesNames_of_bare {asterisk : Bool} {e read : Expr} (h : e.Admissible asterisk)
    (hread : read.bare = e.regrouped) : WritesNames asterisk e read := by
  obtain ⟨hnames, hadmissible⟩ := Expr.regrouped_names h
  obtain ⟨hread', hadmissible'⟩ := read.bare_names asterisk
  rw [hread] at hread' hadmissible'
  exact ⟨hadmissible'.mp hadmissible, hread'.symm.trans hnames⟩

lemma parts_of_bare {read : Expr} {parts : List String} (h : read.bare = .var ⟨parts, none, none⟩) :
    ∃ v, read = .var v ∧ v.parts = parts := by
  obtain ⟨v, rfl, hv⟩ := Expr.bare_eq_var_iff.mp h
  exact ⟨v, rfl, congrArg Variable.parts hv⟩

/-- What a column stands for is written, as a term unless it is an asterisk. -/
lemma says_kind (hreserved : reserved.IsComplete) {kind : ColumnKind}
    (hwell : kind.WellBound q.sources) (hlegible : q.legibleKind reserved kind = true)
    (hexpression : ∀ e, kind = .expression e → e.isVariable = false ∧ e.Admissible true) :
    ∃ e, Says (IsColumn reserved (derives reserved 48)) (q.renderKind reserved kind) e ∧
      (kind.isAsterisk = false →
        Says (derives reserved 48 0 0) (q.renderKind reserved kind) e) ∧
      ∀ read : Expr, read.bare = e → q.WritesKind kind read := by
  have hterm {text : String} {e : Expr} (h : Says (derives reserved 48 0 0) text e) :
      Says (IsColumn reserved (derives reserved 48)) text e := by
    obtain ⟨ts, hprints, hderived⟩ := h
    exact ⟨ts, hprints, .term hderived⟩
  match kind with
  | .field ⟨table, field, position⟩ =>
    obtain ⟨p, source, rfl, -, -, -⟩ := hwell
    have htext := (saysName_field hreserved
      (by simpa [legibleKind] using hlegible : q.legibleField reserved p field = true)).term 47
    refine ⟨_, hterm htext, fun _ => htext, fun read hread => ?_⟩
    obtain ⟨v, rfl, hv⟩ := parts_of_bare hread
    exact .field rfl hv
  | .asterisk none =>
    refine ⟨_, says_asterisk reserved _, by simp [ColumnKind.isAsterisk], fun read hread => ?_⟩
    obtain ⟨v, rfl, hv⟩ := parts_of_bare hread
    exact .asterisk hv
  | .asterisk (some p) =>
    obtain ⟨source, hsource⟩ : ∃ source, q.sources[p]? = some source :=
      ⟨_, List.getElem?_eq_getElem hwell⟩
    refine ⟨_, by simpa [renderKind, hsource] using says_tableAsterisk hreserved source.key _,
      by simp [ColumnKind.isAsterisk], fun read hread => ?_⟩
    obtain ⟨v, rfl, hv⟩ := parts_of_bare hread
    exact .tableAsterisk hsource hv
  | .expression e =>
    have hwritable : e.Writable reserved false := by simpa [legibleKind] using hlegible
    obtain ⟨hvariable, hadmissible⟩ := hexpression e rfl
    have htext := says_term hreserved hwritable
    refine ⟨_, hterm htext, fun _ => htext, fun read hread => ?_⟩
    obtain ⟨hvariable', hlist'⟩ := Expr.regrouped_kind hadmissible hvariable hwritable.notList
    rw [← hread, Expr.isVariable_bare] at hvariable'
    rw [← hread, Expr.isList_bare] at hlist'
    exact .expression hvariable' hlist' (writesNames_of_bare hadmissible hread)

/-- **Columns.** A column is written, with its alias if it has one. -/
lemma saysWritten_column (hreserved : reserved.IsComplete) {column : Column}
    (hwell : column.kind.WellBound q.sources) (hlegible : q.legibleColumn reserved column = true)
    (hexpression : ∀ e, column.kind = .expression e → e.isVariable = false ∧ e.Admissible true) :
    SaysWritten (IsColumn reserved (derives reserved 48)) Expr.bare (q.renderColumn reserved column)
      (q.WritesColumn column) := by
  obtain ⟨kind, aliasName, visible⟩ := column
  simp only [legibleColumn, Bool.and_eq_true, Bool.or_eq_true, Bool.not_eq_true'] at hlegible
  obtain ⟨e, htext, hterm, hwrites⟩ := says_kind hreserved hwell hlegible.1 hexpression
  cases aliasName with
  | none =>
    refine ⟨e, by simpa [renderColumn] using htext, fun read hread => ⟨read, ?_, hwrites read hread⟩⟩
    have hkind := hwrites read hread
    cases hkind with
    | expression _ _ h =>
      have hadmissible := h.admissible
      cases read with
      | underName expr name explicitAs => exact absurd hadmissible id
      | _ => rfl
    | _ => rfl
  | some aliasName =>
    obtain ⟨ts, hprints, hderived⟩ := hterm (by simpa using hlegible.2)
    have hname := prints_name hreserved aliasName
    have hall := hprints.clause "AS" (by decide) (by decide) hname
    refine ⟨.aliased e aliasName, ⟨_, by simpa [renderColumn] using hall,
      .aliased hderived (reserved.isPart_token aliasName)⟩, fun read hread => ?_⟩
    obtain ⟨expr, name, rfl, hexpr, hname⟩ := Expr.bare_eq_underName_iff.mp hread
    obtain ⟨v, rfl, hv⟩ := parts_of_bare hname
    exact ⟨expr, by simp [Fragments.columnItem, Variable.name, hv, Name.dotted],
      hwrites expr hexpr⟩

/-! ### Tables -/

/-- **Tables.** A table is written, with its alias if it has one. -/
lemma saysWritten_source (hreserved : reserved.IsComplete) {source : Source}
    (h : reserved.MayBeTable source.table.name) :
    SaysWritten (IsTable reserved) Expr.bare (renderSource reserved source) (WritesSource source) := by
  obtain ⟨table, aliasName⟩ := source
  cases aliasName with
  | none =>
    refine ⟨_, by simpa [renderSource] using says_table hreserved h, fun read hread => ?_⟩
    obtain ⟨v, rfl, hv⟩ := parts_of_bare hread
    exact ⟨v, rfl, hv⟩
  | some aliasName =>
    have hall := (prints_name hreserved table.name).blank (prints_name hreserved aliasName)
    refine ⟨_, ⟨_, by simpa [renderSource] using hall,
      .aliased (reserved.isPart_token table.name) h (reserved.isPart_token aliasName)⟩,
      fun read hread => ?_⟩
    obtain ⟨expr, name, rfl, hexpr, hname⟩ := Expr.bare_eq_underName_iff.mp hread
    obtain ⟨v, rfl, hv⟩ := parts_of_bare hexpr
    obtain ⟨v', rfl, hv'⟩ := parts_of_bare hname
    exact ⟨v, by simp [Fragments.tableItem, Variable.name, hv', Name.dotted], hv⟩

/-! ### Sorting criteria -/

/-- The direction of a criterion follows it. -/
lemma prints_direction {text : String} {ts : List Token} (h : Prints text.toList ts)
    (ascending : Bool) :
    Prints (if ascending then text else text ++ " DESC").toList (ts ++ directionTokens ascending) := by
  cases ascending with
  | true => simpa [directionTokens] using h
  | false =>
    have hdesc := prints_word (by decide : Reserved.isPlainWord "DESC".toList = true) (by decide)
    simpa [directionTokens] using h.blank hdesc

lemma SaysName.criterion {text : String} {parts : List String} (h : SaysName reserved text parts)
    (ascending : Bool) :
    Says (IsCriterion reserved) (if ascending then text else text ++ " DESC")
      { parts, ascending } := by
  obtain ⟨t, ts, hprints, hpath, hform⟩ := h
  exact ⟨_, prints_direction hprints ascending, .name ascending hpath hform⟩

/-- A criterion that is written as a name. -/
lemma SaysName.saysWritten {text : String} {parts : List String} {target : SortTarget}
    (htext : SaysName reserved text parts) (ascending : Bool)
    (hwrites : ∀ item : SortItem, item.parts = parts → item.number = none →
      q.WritesTarget target item) :
    SaysWritten (IsCriterion reserved) (fun item => { item with position := none })
      (if ascending then text else text ++ " DESC") (q.WritesKey ⟨target, ascending⟩) := by
  refine ⟨_, htext.criterion ascending, fun read hread => ?_⟩
  obtain ⟨parts', number, ascending', position⟩ := read
  simp only [SortItem.mk.injEq] at hread
  obtain ⟨hparts, hnumber, hascending, -⟩ := hread
  exact ⟨hwrites _ hparts hnumber, hascending⟩

/-- **Sorting criteria.** A criterion is written in its direction. -/
lemma saysWritten_key (hreserved : reserved.IsComplete) (hq : q.WellFormed) {key : SortKey}
    (hcolumns : ∀ column ∈ q.columns, q.legibleColumn reserved column = true)
    (hlegible : q.legibleTarget reserved key.target = true)
    (hnumber : ∀ index, key.target = .number index → index + 1 < UInt64.size) :
    SaysWritten (IsCriterion reserved) (fun item => { item with position := none })
      (q.renderSortKey reserved key) (q.WritesKey key) := by
  obtain ⟨target, ascending⟩ := key
  cases target with
  | column index =>
    simp only [legibleTarget] at hlegible
    split at hlegible
    · rename_i kind aliasName visible hcolumn
      have hlegible' := hcolumns _ (List.mem_of_getElem? hcolumn)
      simp only [legibleColumn, Option.isNone_some, Bool.false_or, Bool.and_eq_true,
        Bool.not_eq_true'] at hlegible'
      have hwritten := (saysName_quote hreserved hlegible).saysWritten ascending
        fun item hparts _ => .aliased hcolumn hlegible'.2 rfl hparts
      simpa [renderSortKey, hcolumn] using hwritten
    · rename_i f aliasName visible hnone hcolumn
      obtain ⟨p, source, hp, -, -, -⟩ := hq.columns _ (List.mem_of_getElem? hcolumn)
      obtain ⟨table, field, position⟩ := f
      obtain rfl : position = some p := hp
      obtain rfl : aliasName = none := by
        cases aliasName with
        | none => rfl
        | some name => exact absurd rfl (hnone name)
      have hwritten := (saysName_field hreserved (by simpa [legibleKind] using hlegible)).saysWritten
        ascending fun item hparts hnumber => .listed hcolumn rfl rfl rfl hparts hnumber
      simpa [renderSortKey, renderKind, hcolumn] using hwritten
    · simp at hlegible
  | number index =>
    have hword := word64?_toString (hnumber index rfl)
    have hprints := prints_numeral (isNumeral_natural (index + 1))
    refine ⟨_, ⟨_, by simpa [renderSortKey] using prints_direction hprints ascending,
      .number ascending hword⟩, fun read hread => ?_⟩
    obtain ⟨parts', number, ascending', position⟩ := read
    simp only [SortItem.numbered, SortItem.mk.injEq] at hread
    obtain ⟨hparts, hnumber, hascending, -⟩ := hread
    exact ⟨.number hparts hnumber, hascending⟩
  | field position field =>
    have hwritten := (saysName_field hreserved hlegible).saysWritten ascending
      fun item hparts hnumber => .field hparts hnumber
    simpa [renderSortKey] using hwritten

end Query

end SelectBinding
