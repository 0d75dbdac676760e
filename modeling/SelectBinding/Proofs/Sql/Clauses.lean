import SelectBinding.Proofs.Sql.Terms

/-!
Columns, tables and sorting criteria are read as they are derived.
-/

namespace SelectBinding.Sql.Grammar

open Sql.Parser Sql.Reading

/-! ### Derivations -/

section Derivation

variable (reserved : Reserved) (level : Level)

/-- An item after `SELECT`. -/
inductive IsColumn : List Token → Expr → Prop where
  | term {ts : List Token} {e : Expr} (h : level 0 0 ts e) : IsColumn ts e
  | aliased {t : Token} {ts : List Token} {e : Expr} {name : String} (h : level 0 0 ts e)
      (hname : IsPart reserved t name) : IsColumn (ts ++ [kw "AS", t]) (.aliased e name)
  | asterisk : IsColumn [.sign "*"] (.var ⟨["*"], none, none⟩)
  | qualified {ts : List Token} {parts : List String} (h : IsPath reserved ts parts) :
      IsColumn (ts ++ [.sign ".", .sign "*"]) (.var ⟨parts ++ ["*"], none, none⟩)

/-- An item after `FROM`. -/
inductive IsTable : List Token → Expr → Prop where
  | plain {t : Token} {name : String} (h : IsPart reserved t name)
      (hform : t.isKeyword "UNNEST" = false) : IsTable [t] (.var ⟨[name], none, none⟩)
  | aliased {t t' : Token} {name aliasName : String} (h : IsPart reserved t name)
      (hform : t.isKeyword "UNNEST" = false) (halias : IsPart reserved t' aliasName) :
      IsTable [t, t']
        (.underName (.var ⟨[name], none, none⟩) (.var ⟨[aliasName], none, none⟩) false)

/-- The word for a descending order, if the order is not ascending. -/
def directionTokens (ascending : Bool) : List Token :=
  if ascending then [] else [kw "DESC"]

/-- An item after `ORDER BY`. -/
inductive IsCriterion : List Token → SortItem → Prop where
  | name {t : Token} {ts : List Token} {parts : List String} (ascending : Bool)
      (h : IsPath reserved (t :: ts) parts) (hform : t.isOneOf nameForms = false) :
      IsCriterion (t :: ts ++ directionTokens ascending) { parts, ascending }
  | number {spelling : String} {n : Nat} (ascending : Bool)
      (h : Decimal.word64? spelling = some n) :
      IsCriterion (.number spelling false :: directionTokens ascending) (.numbered n ascending)

/-- A clause that begins with some words, or is not there. -/
inductive IsClause {α : Type} (words : List String) (one : List Token → α → Prop) :
    List Token → List α → Prop where
  | absent : IsClause words one [] []
  | present {ts : List Token} {as : List α} (h : Listed one ts as) :
      IsClause words one (words.map kw ++ ts) as

/-- The filter, or none. -/
inductive IsFilter : List Token → Option Expr → Prop where
  | absent : IsFilter [] none
  | present {ts : List Token} {e : Expr} (h : level 0 0 ts e) :
      IsFilter (kw "WHERE" :: ts) (some e)

end Derivation

/-! ### Columns -/

/-- What may follow a column. -/
def columnEnds : List Token :=
  [.finish, .sign ",", kw "FROM", kw "WHERE", kw "ORDER"]

lemma mem_closers_of_columnEnds : ∀ t ∈ columnEnds, t ∈ closers := by
  decide

section Columns

variable {r : Reading} {inner : Inner} {level : Level} {rest : List Located}

/-- The item stands for the expression, wherever the select around it begins. -/
def LowersColumn (r : Reading) (item : SelectItem) (e : Expr) : Prop :=
  ∀ select, ∃ w, r.column select item = .ok w ∧ w.bare = e

lemma optionalAlias_column (h : (front rest).token ∈ columnEnds) :
    optionalAlias Reserved.afterColumn ansi rest = .ok (none, rest) := by
  have hkeyword : ∀ t ∈ columnEnds, t.isKeyword "AS" = false := by decide
  simp only [optionalAlias, run_bind, run_keyword, hkeyword _ h, Bool.false_eq_true, if_false,
    run_peek]
  simp only [columnEnds, List.mem_cons, List.not_mem_nil, or_false] at h
  rcases h with h | h | h | h | h <;> rw [h] <;> rfl

lemma optionalAlias_as {word l : Located} {value : String} {quote : Option Char}
    (reserved : List String) (hword : word.token = kw "AS") (hl : l.token = .word value quote) :
    optionalAlias reserved ansi (word :: l :: rest) =
      .ok (some (wordIdent value quote l.place), rest) := by
  have hkeyword : (kw "AS").isKeyword "AS" = true := rfl
  simp only [optionalAlias, run_bind, run_keyword, front_cons, hword, hkeyword, if_true,
    List.tail_cons, run_peek, hl, Bool.true_or, run_next, run_pure]

lemma wildcardOptions_none (inner : Inner) (h : (front rest).token ∈ columnEnds) :
    wildcardOptions inner ansi rest = .ok ({}, rest) := by
  have hansi : ansi.dialect.isOneOf [.ansi] = true := rfl
  have hkeyword (word : String) (hw : ∀ t ∈ columnEnds, t.isKeyword word = false) :
      (front rest).token.isKeyword word = false := hw _ h
  have hnone : (none : Option String).isSome = false := rfl
  simp only [wildcardOptions, run_bind, run_dialectIn, hansi, if_true,
    run_afterKeyword_of_not (hkeyword "ILIKE" (by decide)), hnone, Bool.false_eq_true, if_false,
    run_afterKeyword_of_not (hkeyword "EXCLUDE" (by decide)),
    run_afterKeyword_of_not (hkeyword "EXCEPT" (by decide)),
    run_afterKeyword_of_not (hkeyword "REPLACE" (by decide)),
    run_afterKeyword_of_not (hkeyword "RENAME" (by decide)), run_pure]

/-- A term that stands for something is not the word `FROM`. -/
lemma isBareFrom_of_lowers (hreserved : r.reserved.IsComplete) {t : Term} {e : Expr}
    (h : r.Lowers t e) : isBareFrom t = false := by
  by_contra hfrom
  rw [Bool.not_eq_false] at hfrom
  unfold isBareFrom at hfrom
  split at hfrom
  · rename_i value place
    have hcontains : r.reserved.contains value = true := by
      rw [Reserved.contains, Name.agree_iff_upper.mp hfrom, List.contains_eq_mem, decide_eq_true_eq]
      exact hreserved _ (by decide)
    obtain ⟨w, hw, -⟩ := h 0
    simp [expr, variableOf, nameParts, nameValue, hcontains, refusal, bind, Except.bind] at hw
  · simp at hfrom

lemma starred_term (hin : ReadsInside r inner level) {ts : List Token} {e : Expr}
    (h : level 0 0 ts e) {ls : List Located} (hls : ls.map Located.token = ts) (htidy : Tidy ls)
    (hrest : Before 0 rest) :
    ∃ t, starred inner ansi (ls ++ rest) = .ok (.term t, rest) ∧ r.Lowers t e := by
  obtain ⟨left, hasterisk⟩ := hin.noAsterisk h hls hrest
  obtain ⟨t, hread, hlowers⟩ := hin.reads h hls htidy hrest
  refine ⟨t, ?_, hlowers⟩
  simp only [starred, run_bind, lookFor, hasterisk, Inner.term, hread, run_pure]

/-- **Columns.** An item after `SELECT` is read. -/
lemma IsColumn.read (hreserved : r.reserved.IsComplete) (hin : ReadsInside r inner level)
    {ts : List Token} {e : Expr} (h : IsColumn r.reserved level ts e) {ls : List Located}
    (hls : ls.map Located.token = ts) (htidy : Tidy (ls ++ rest))
    (hrest : (front rest).token ∈ columnEnds) :
    ∃ item, selectItem inner ansi (ls ++ rest) = .ok (item, rest) ∧ LowersColumn r item e := by
  have hoptions := wildcardOptions_none inner hrest
  cases h with
  | term h =>
    have hbefore := before_of_closer (mem_closers_of_columnEnds _ hrest) htidy.right
    obtain ⟨t, hread, hlowers⟩ := starred_term hin h hls htidy.left hbefore
    refine ⟨.term t, ?_, hlowers⟩
    simp only [selectItem, run_bind, hread, isBareFrom_of_lowers hreserved hlowers,
      Bool.false_eq_true, if_false, optionalAlias_column hrest, run_pure]
  | @aliased last _ _ name h hname =>
    obtain ⟨ls, more, rfl, hterm, hmore⟩ := List.map_eq_append_iff.mp hls
    obtain ⟨word, more, rfl, hword, hmore⟩ := List.map_eq_cons_iff.mp hmore
    obtain ⟨l, rfl, rfl⟩ := List.map_eq_singleton_iff.mp hmore
    obtain ⟨quote, hl⟩ := hname.eq_word
    rw [hl] at hname
    rw [List.append_assoc] at htidy ⊢
    have hclose : (front (word :: l :: rest)).token ∈ closers := by simp [hword, closers]
    obtain ⟨t, hread, hlowers⟩ :=
      starred_term hin h hterm htidy.left (before_of_closer hclose htidy.right)
    refine ⟨.aliased t (wordIdent name quote l.place), ?_, ?_⟩
    · simp only [selectItem, run_bind, List.cons_append, List.nil_append, hread,
        isBareFrom_of_lowers hreserved hlowers, Bool.false_eq_true, if_false,
        optionalAlias_as _ hword hl, run_pure]
    · intro select
      obtain ⟨w, hw, rfl⟩ := hlowers select
      have hvalue : r.nameValue (wordIdent name quote l.place) = .ok name := hname.names
      refine ⟨.aliased w name, ?_, rfl⟩
      simp [column, hw, hvalue, bind, Except.bind, pure, Except.pure]
  | asterisk =>
    obtain ⟨star, rfl, hstar⟩ := List.map_eq_singleton_iff.mp hls
    refine ⟨.wildcard star.place {}, ?_, fun select => ?_⟩
    · simp only [selectItem, starred, run_bind, lookFor, Grammar.asterisk, List.singleton_append,
        run_next, front_cons, hstar, run_pure, List.tail_cons, hoptions]
    · refine ⟨.var ⟨["*"], r.text.offset? star.place, none⟩, ?_, rfl⟩
      simp [column, checkWildcard, asterisk_ok .nil, start?, bind, Except.bind, pure, Except.pure]
  | @qualified _ parts h =>
    obtain ⟨path, more, rfl, hpath, hmore⟩ := List.map_eq_append_iff.mp hls
    obtain ⟨dot, more, rfl, hdot, hmore⟩ := List.map_eq_cons_iff.mp hmore
    obtain ⟨star, rfl, hstar⟩ := List.map_eq_singleton_iff.mp hmore
    obtain ⟨idents, hasterisk, hnames⟩ := asterisk_qualified h hpath hdot hstar rest
    refine ⟨.qualifiedWildcard idents {}, ?_, fun select => ?_⟩
    · simp only [selectItem, starred, run_bind, lookFor, List.append_assoc, List.cons_append,
        List.nil_append, hasterisk, run_pure, hoptions]
    · refine ⟨.var ⟨parts ++ ["*"], (r.start? idents).or none, none⟩, ?_, rfl⟩
      simp [column, checkWildcard, asterisk_ok hnames, bind, Except.bind, pure, Except.pure]

/-- How a column begins. -/
lemma IsColumn.first (hreserved : r.reserved.IsComplete) (hin : ReadsInside r inner level)
    {ts : List Token} {e : Expr} (h : IsColumn r.reserved level ts e) :
    ∃ t ts', ts = t :: ts' ∧ t.isOneOf ["ALL", "DISTINCT", "TOP"] = false := by
  cases h with
  | term h =>
    obtain ⟨t, ts, rfl, hfirst, -⟩ := hin.begins h
    exact ⟨t, ts, rfl, isOneOf_of_subset hfirst (by decide)⟩
  | aliased h _ =>
    obtain ⟨t, ts, rfl, hfirst, -⟩ := hin.begins h
    exact ⟨t, _, rfl, isOneOf_of_subset hfirst (by decide)⟩
  | asterisk => exact ⟨_, _, rfl, rfl⟩
  | qualified h =>
    obtain ⟨t, ts, part, rfl, hpart⟩ := h.first
    exact ⟨t, _, rfl, isOneOf_of_subset (hpart.not_quotedWord hreserved) (by decide)⟩

end Columns

/-! ### Tables -/

/-- What may follow a table. -/
def tableEnds : List Token :=
  [.finish, .sign ",", kw "WHERE", kw "ORDER"]

section Tables

variable {r : Reading} {inner : Inner} {rest : List Located}

/-- The item stands for the expression, wherever the select around it begins. -/
def LowersTable (r : Reading) (item : FromItem) (e : Expr) : Prop :=
  ∀ select, ∃ w, r.table select item = .ok w ∧ w.bare = e

lemma optionalAlias_table (h : (front rest).token ∈ tableEnds) :
    optionalAlias Reserved.afterTable ansi rest = .ok (none, rest) := by
  have hkeyword : ∀ t ∈ tableEnds, t.isKeyword "AS" = false := by decide
  simp only [optionalAlias, run_bind, run_keyword, hkeyword _ h, Bool.false_eq_true, if_false,
    run_peek]
  simp only [tableEnds, List.mem_cons, List.not_mem_nil, or_false] at h
  rcases h with h | h | h | h <;> rw [h] <;> rfl

/-- An alias without `AS` is read. -/
lemma optionalAlias_bare (hreserved : r.reserved.IsComplete) {l : Located} {value name : String}
    {quote : Option Char} (hl : l.token = .word value quote)
    (hname : IsPart r.reserved l.token name) :
    optionalAlias Reserved.afterTable ansi (l :: rest) =
      .ok (some (wordIdent value quote l.place), rest) := by
  have has : (Token.word value quote).isKeyword "AS" = false :=
    hl ▸ hname.not_keyword hreserved (by decide)
  have hafter : (Token.word value quote).isOneOf Reserved.afterTable = false :=
    hl ▸ isOneOf_of_subset (hname.not_quotedWord hreserved) (by decide)
  simp only [optionalAlias, run_bind, run_keyword, front_cons, hl, has, Bool.false_eq_true,
    if_false, run_peek, hafter, Bool.not_false, Bool.or_true, if_true, run_next, List.tail_cons,
    run_pure]

/-- Nothing but an alias follows the name of a table. -/
lemma tableExtras_none (hopen : (front rest).token ≠ .sign "(")
    (hwords : (front rest).token.isOneOf ["PARTITION", "WITH"] = false) :
    tableExtras inner ansi rest = .ok ({}, rest) := by
  have hansi : ansi.dialect.isOneOf [.ansi, .mysql] = true := rfl
  have hpartition : (front rest).token.isKeyword "PARTITION" = false :=
    isKeyword_of_not_isOneOf hwords (by decide)
  have hwith : (front rest).token.isKeyword "WITH" = false :=
    isKeyword_of_not_isOneOf hwords (by decide)
  simp only [tableExtras, run_bind, run_onlyIn, hansi, if_true, run_keyword, hpartition,
    Bool.false_eq_true, if_false, run_pure, run_sign, if_neg hopen, run_keywords_of_not hwith]

lemma tableHints_none (hwith : (front rest).token.isKeyword "WITH" = false) :
    tableHints inner ansi rest = .ok ([], rest) := by
  simp only [tableHints, run_bind, run_peekKeyword, run_peekAt, hwith, Bool.false_and, run_pure,
    Bool.false_eq_true, if_false]

lemma objectName_word {l : Located} {value : String} {quote : Option Char}
    (hl : l.token = .word value quote) (hdot : (front rest).token ≠ .sign ".") :
    objectName ansi (l :: rest) = .ok ([wordIdent value quote l.place], rest) := by
  have hmore : sign "." ansi rest = .ok (false, rest) := by rw [run_sign, if_neg hdot]
  simp only [objectName, run_bind, identifier, run_next, front_cons, List.tail_cons, hl, run_pure,
    run_many_of_not hmore]

/-- Nothing is joined to a table, and it is not turned. -/
lemma joined_alone {factor : Parser FromFactor} {ls : List Located} {table : FromFactor}
    (h : factor ansi ls = .ok (table, rest)) (hrest : (front rest).token ∈ tableEnds) :
    joined inner factor ansi ls = .ok ({ relation := table }, rest) := by
  have hkeyword (word : String) (hw : ∀ t ∈ tableEnds, t.isKeyword word = false) :
      (front rest).token.isKeyword word = false := hw _ hrest
  have hone (words : List String) (hw : ∀ t ∈ tableEnds, t.isOneOf words = false) :
      (front rest).token.isOneOf words = false := hw _ hrest
  have hjoin : constrainedJoin false ansi rest = .ok (none, rest) := by
    simp only [constrainedJoin, run_bind, run_peek, hone ["INNER", "JOIN"] (by decide),
      Bool.false_eq_true, if_false, hone ["LEFT", "RIGHT"] (by decide),
      hone ["ANTI", "SEMI"] (by decide), run_keyword, hkeyword "FULL" (by decide), run_pure]
  have hnone : join inner factor ansi rest = .ok (none, rest) := by
    simp only [join, run_bind, run_keyword, hkeyword "GLOBAL" (by decide), Bool.false_eq_true,
      if_false, hkeyword "CROSS" (by decide), hkeyword "OUTER" (by decide),
      hkeyword "ASOF" (by decide), hkeyword "NATURAL" (by decide), hjoin, run_pure]
  simp only [joined, run_bind, h]
  rw [run_repeatedly_of_none (by simp only [run_bind, hnone, run_pure])]
  rfl

/-- A table by its name is read, with the alias that it may have. -/
lemma namedTable_read {l : Located} {value : String} {quote : Option Char} {ls : List Located}
    {given : Option TableAlias} (hl : l.token = .word value quote)
    (hextras : tableExtras inner ansi ls = .ok ({}, ls)) (hdot : (front ls).token ≠ .sign ".")
    (halias : tableAlias inner ansi ls = .ok (given, rest)) (hrest : (front rest).token ∈ tableEnds) :
    turnedTable inner ansi (l :: ls) =
      .ok ({ body := .table [wordIdent value quote l.place] {}, tableAlias := given }, rest) := by
  have hkeyword (word : String) (hw : ∀ t ∈ tableEnds, t.isKeyword word = false) :
      (front rest).token.isKeyword word = false := hw _ hrest
  have hnamed : namedTable inner ansi (l :: ls) =
      .ok ({ body := .table [wordIdent value quote l.place] {}, tableAlias := given }, rest) := by
    simp only [namedTable, run_bind, objectName_word hl hdot, hextras, halias,
      tableHints_none (hkeyword "WITH" (by decide)), run_pure]
  have hturns : ∀ t ∈ tableEnds, t.isOneOf ["PIVOT", "UNPIVOT"] = false := by decide
  have hturned (table : FromFactor) : turned inner table ansi rest = .ok (table, rest) :=
    run_repeatedly_of_none (by simp only [run_bind, run_oneOf_of_not (hturns _ hrest), run_pure])
  have hansi : ansi.dialect.isOneOf [.ansi] = true := rfl
  simp only [turnedTable, run_bind, hnamed, hturned, run_onlyIn, hansi, if_true, run_keyword,
    hkeyword "MATCH_RECOGNIZE" (by decide), Bool.false_eq_true, if_false, run_pure]

/-- An item that begins with a name is a table by its name. -/
lemma fromItem_read (hreserved : r.reserved.IsComplete) {l : Located} {value name : String}
    {quote : Option Char} {ls : List Located} {table : FromFactor}
    (hl : l.token = .word value quote) (hname : IsPart r.reserved l.token name)
    (hform : l.token.isKeyword "UNNEST" = false) (hopen : (front ls).token ≠ .sign "(")
    (h : turnedTable inner ansi (l :: ls) = .ok (table, rest))
    (hrest : (front rest).token ∈ tableEnds) :
    fromItem inner ansi (l :: ls) = .ok ({ relation := table }, rest) := by
  have hansi : ansi.dialect.isOneOf [.ansi] = true := rfl
  have hboth : ansi.dialect.isOneOf [.ansi, .postgres] = true := rfl
  have hwords (word : String) (hword : word ∈ quotedWords) := hname.not_keyword hreserved hword
  have hsecond : (((l :: ls)[1]?).getD finish).token ≠ .sign "(" := by simpa [front] using hopen
  have hopening (word : String) : openingWord word ansi (l :: ls) = .ok (false, l :: ls) := by
    have hno : ((((l :: ls)[1]?).getD finish).token == .sign "(") = false := by simpa using hsecond
    simp only [openingWord, run_bind, run_peekKeyword, run_peekAt, hno, Bool.and_false, run_pure,
      Bool.false_eq_true, if_false]
  have hsign : l.token ≠ .sign "(" := by simp [hl]
  have hfactor (depth : Nat) : factorWithin inner (depth + 1) ansi (l :: ls) = .ok (table, rest) := by
    simp only [factorWithin, run_bind, run_keyword, front_cons, hwords "LATERAL" (by decide),
      Bool.false_eq_true, if_false, hwords "TABLE" (by decide), run_sign, hsign, run_onlyIn, hansi,
      if_true, run_peekKeyword, hwords "VALUES" (by decide), run_peekAt, Bool.false_and, hboth,
      hform, hopening, h]
  simp only [fromItem, run_bind, run_remaining]
  exact joined_alone (hfactor _) hrest

/-- **Tables.** An item after `FROM` is read. -/
lemma IsTable.read (hreserved : r.reserved.IsComplete) {ts : List Token} {e : Expr}
    (h : IsTable r.reserved ts e) {ls : List Located} (hls : ls.map Located.token = ts)
    (hrest : (front rest).token ∈ tableEnds) :
    ∃ item, fromItem inner ansi (ls ++ rest) = .ok (item, rest) ∧ LowersTable r item e := by
  have hends : ∀ t ∈ tableEnds, t ≠ .sign "(" ∧ t ≠ .sign "." ∧
      t.isOneOf ["PARTITION", "WITH"] = false := by decide
  obtain ⟨hopen, hdot, hwords⟩ := hends _ hrest
  cases h with
  | @plain t name hname hform =>
    obtain ⟨l, rfl, rfl⟩ := List.map_eq_singleton_iff.mp hls
    obtain ⟨quote, hl⟩ := hname.eq_word
    have halias : tableAlias inner ansi rest = .ok (none, rest) := by
      simp only [tableAlias, run_bind, optionalAlias_table hrest, run_pure]
    have htable := namedTable_read hl (tableExtras_none hopen hwords) hdot halias hrest
    refine ⟨_, fromItem_read hreserved hl hname hform hopen htable hrest, fun select => ?_⟩
    rw [hl] at hname
    refine ⟨.var ⟨[name], r.start? [wordIdent name quote l.place], none⟩, ?_, rfl⟩
    simp [table, variableOf_ok (.cons hname.names .nil), aliasedTable, bind, Except.bind, pure,
      Except.pure]
  | @aliased t t' name aliasName hname hform haliasName =>
    obtain ⟨l, more, rfl, rfl, hmore⟩ := List.map_eq_cons_iff.mp hls
    obtain ⟨l', rfl, rfl⟩ := List.map_eq_singleton_iff.mp hmore
    obtain ⟨quote, hl⟩ := hname.eq_word
    obtain ⟨quote', hl'⟩ := haliasName.eq_word
    have hcolumns : aliasColumns inner ansi rest = .ok ([], rest) := by
      simp only [aliasColumns, run_bind, run_sign, if_neg hopen, Bool.false_eq_true, if_false,
        run_pure]
    have halias : tableAlias inner ansi (l' :: rest) =
        .ok (some { name := wordIdent aliasName quote' l'.place }, rest) := by
      simp only [tableAlias, run_bind, optionalAlias_bare hreserved hl' haliasName, hcolumns,
        run_pure]
    have hopen' : (front (l' :: rest)).token ≠ .sign "(" := by simp [hl']
    have hextras : tableExtras inner ansi (l' :: rest) = .ok ({}, l' :: rest) :=
      tableExtras_none hopen'
        (isOneOf_of_subset (haliasName.not_quotedWord hreserved) (by decide))
    have htable := namedTable_read hl hextras (by simp [hl']) halias hrest
    refine ⟨_, fromItem_read hreserved hl hname hform hopen' htable hrest, fun select => ?_⟩
    rw [hl] at hname
    rw [hl'] at haliasName
    refine ⟨.underName (.var ⟨[name], r.start? [wordIdent name quote l.place], none⟩)
      (.var ⟨[aliasName], r.start? [wordIdent aliasName quote' l'.place], none⟩) false, ?_, rfl⟩
    simp [table, variableOf_ok (.cons hname.names .nil), aliasedTable,
      variableOf_ok (.cons haliasName.names .nil), bind, Except.bind, pure, Except.pure]

end Tables

/-! ### Sorting criteria -/

/-- What may follow a sorting criterion. -/
def criterionEnds : List Token :=
  [.finish, .sign ","]

section Criteria

variable {r : Reading} {inner : Inner} {rest : List Located}

/-- The criterion is the other one, wherever it stands. -/
def LowersCriterion (r : Reading) (item : SortTerm) (criterion : SortItem) : Prop :=
  ∀ order position, ∃ found, r.sortItem order item position = .ok found ∧
    { found with position := none } = criterion

/-- The direction of a criterion is read. -/
lemma direction_read {ascending : Bool} {ls : List Located}
    (hls : ls.map Located.token = directionTokens ascending)
    (hrest : (front rest).token ∈ criterionEnds) :
    (front (ls ++ rest)).token ∈ closers ∧
      ∃ given, direction ansi (ls ++ rest) = .ok (given, rest) ∧ given.getD true = ascending := by
  have hclosers : ∀ t ∈ criterionEnds, t ∈ closers ∧ t.isKeyword "ASC" = false ∧
      t.isKeyword "DESC" = false := by decide
  cases ascending with
  | true =>
    obtain rfl : ls = [] := by simpa [directionTokens] using hls
    obtain ⟨hclose, hasc, hdesc⟩ := hclosers _ hrest
    refine ⟨hclose, none, ?_, rfl⟩
    simp only [direction, run_bind, List.nil_append, run_keyword, hasc, hdesc, Bool.false_eq_true,
      if_false, run_pure]
  | false =>
    obtain ⟨l, rfl, hl⟩ := List.map_eq_singleton_iff.mp hls
    have hasc : (kw "DESC").isKeyword "ASC" = false := rfl
    have hdesc : (kw "DESC").isKeyword "DESC" = true := rfl
    refine ⟨by simp [hl, closers], some false, ?_, rfl⟩
    simp only [direction, run_bind, List.singleton_append, run_keyword, front_cons, hl, hasc, hdesc,
      Bool.false_eq_true, if_false, if_true, List.tail_cons, run_pure]

/-- A criterion is read by its term and its direction. -/
lemma sortTerm_read (inner : Inner) (ls : List Located) {term : Term} {ascending : Bool} {order : List Located}
    (hterm : inner.term ansi (ls ++ (order ++ rest)) = .ok (term, order ++ rest))
    (horder : order.map Located.token = directionTokens ascending)
    (hrest : (front rest).token ∈ criterionEnds) :
    ∃ given, sortTerm inner ansi (ls ++ (order ++ rest)) =
      .ok ({ term, ascending := given }, rest) ∧ given.getD true = ascending := by
  obtain ⟨-, given, hdirection, hgiven⟩ := direction_read horder hrest
  have hkeywords : ∀ t ∈ criterionEnds, t.isKeyword "NULLS" = false ∧
      t.isKeyword "WITH" = false := by decide
  obtain ⟨hnulls, hwith⟩ := hkeywords _ hrest
  have hansi : ansi.dialect.isOneOf [.ansi] = true := rfl
  refine ⟨given, ?_, hgiven⟩
  simp only [sortTerm, run_bind, hterm, hdirection, placeOfNulls, run_keywords_of_not hnulls,
    Bool.false_eq_true, if_false, run_pure, run_onlyIn, hansi, if_true, run_keywords_of_not hwith]

/-- **Criteria.** An item after `ORDER BY` is read. -/
lemma IsCriterion.read (hreserved : r.reserved.IsComplete) (depth : Nat) {ts : List Token}
    {criterion : SortItem} (h : IsCriterion r.reserved ts criterion) {ls : List Located}
    (hls : ls.map Located.token = ts) (htidy : Tidy (ls ++ rest))
    (hrest : (front rest).token ∈ criterionEnds) :
    ∃ item, sortTerm (level (depth + 1)) ansi (ls ++ rest) = .ok (item, rest) ∧
      LowersCriterion r item criterion := by
  cases h with
  | @name t ts parts ascending h hform =>
    obtain ⟨path, order, rfl, hpath, horder⟩ := List.map_eq_append_iff.mp hls
    rw [List.append_assoc] at htidy ⊢
    obtain ⟨hclose, -⟩ := direction_read horder hrest
    obtain ⟨idents, hterm, hnames⟩ := termAbove_name (level depth) hreserved h hform hpath
      htidy.left (before_of_closer hclose htidy.right)
    obtain ⟨given, hread, rfl⟩ := sortTerm_read (level (depth + 1)) path hterm horder hrest
    refine ⟨_, hread, fun order position => ?_⟩
    refine ⟨{ parts, ascending := given.getD true, position := r.start? idents }, ?_, rfl⟩
    rcases hnames with _ | ⟨hfirst, _ | ⟨hsecond, hmore⟩⟩
    · cases h
    · simp [sortItem, nameTerm, sortName, nameParts_ok (.cons hfirst .nil), bind, Except.bind,
        pure, Except.pure]
    · simp [sortItem, nameTerm, sortName, nameParts_ok (.cons hfirst (.cons hsecond hmore)), bind,
        Except.bind, pure, Except.pure]
  | @number spelling n ascending h =>
    obtain ⟨l, order, rfl, hl, horder⟩ := List.map_eq_cons_iff.mp hls
    obtain ⟨hclose, -⟩ := direction_read horder hrest
    have hterm : (level (depth + 1)).term ansi (l :: (order ++ rest)) =
        .ok (.literal (.number spelling false), order ++ rest) :=
      termAbove_number hl (before_of_closer hclose htidy.tail)
    obtain ⟨given, hread, rfl⟩ := sortTerm_read (level (depth + 1)) [l] hterm horder hrest
    refine ⟨_, hread, fun order position => ?_⟩
    refine ⟨{ SortItem.numbered n (given.getD true) with position }, ?_, rfl⟩
    simp [sortItem, sortNumber, h]

end Criteria

end SelectBinding.Sql.Grammar
