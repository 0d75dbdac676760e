import SelectBinding.Proofs.Build.Reread
import SelectBinding.Proofs.Sql.Statements
import SelectBinding.Proofs.Text.Derivations

/-!
The text of a statement is read as what it says.
-/

namespace SelectBinding

open Sql Sql.Grammar Sql.Parser

/-! ### Clauses -/

section Clauses

variable {reserved : Reserved} {level : Level} {α : Type}

/-- The text prints tokens that say this. -/
def Says (one : List Token → α → Prop) (text : String) (a : α) : Prop :=
  ∃ ts, Prints text.toList ts ∧ one ts a

/-- Texts with commas between them say everything that each of them says. -/
lemma says_commaSeparated {one : List Token → α → Prop} {texts : List String} {as : List α}
    (h : List.Forall₂ (Says one) texts as) (hne : texts ≠ []) :
    Says (Listed one) (Query.commaSeparated texts) as := by
  induction h with
  | nil => exact absurd rfl hne
  | @cons text a texts as h hrest ih =>
    obtain ⟨ts, hprints, hone⟩ := h
    cases hrest with
    | nil => exact ⟨ts, by simpa [Query.commaSeparated] using hprints, .last hone⟩
    | cons h' hrest' =>
      obtain ⟨ts', hprints', hmore⟩ := ih (by simp)
      refine ⟨ts ++ .sign "," :: ts', ?_, .more hone hmore⟩
      have := hprints.comma hprints'
      simpa [Query.commaSeparated, String.intercalate_cons_cons] using this

/-- What stands after a keyword follows what comes before it. -/
lemma Prints.clause {cs cs' : List Char} {ts ts' : List Token} (h : Prints cs ts) (word : String)
    (hplain : Reserved.isPlainWord word.toList = true)
    (hon : Token.isKeyword "ON" (.word word none) = false) (h' : Prints cs' ts') :
    Prints (cs ++ ' ' :: (word.toList ++ ' ' :: cs')) (ts ++ kw word :: ts') := by
  simpa using h.blank ((prints_word hplain hon).blank h')

/-- Things with commas between them follow as a clause, if there are any. -/
lemma Prints.listClause {one : List Token → α → Prop} {texts : List String} {as : List α}
    {head : String} {ts : List Token} (h : Prints head.toList ts) (clause : String)
    (words : List String)
    (hclause : ∀ cs' ts', Prints cs' ts' →
      Prints (head.toList ++ (clause.toList ++ cs')) (ts ++ (words.map kw ++ ts')))
    (hsaid : List.Forall₂ (Says one) texts as) :
    ∃ ts', Prints (head ++ if texts.isEmpty then "" else clause ++ Query.commaSeparated texts).toList
        (ts ++ ts') ∧ IsClause words one ts' as := by
  by_cases hempty : texts = []
  · subst hempty
    obtain rfl := List.forall₂_nil_left_iff.mp hsaid
    exact ⟨[], by simpa using h, .absent⟩
  · obtain ⟨ts', hprints, hlisted⟩ := says_commaSeparated hsaid hempty
    exact ⟨words.map kw ++ ts', by simpa [hempty] using hclause _ _ hprints, .present hlisted⟩

/-- The filter follows, if there is one. -/
lemma Prints.filterClause {head : String} {ts : List Token} (h : Prints head.toList ts)
    {filter : Option String} {e : Option Expr} (hsaid : Option.Rel (Says (level 0 0)) filter e) :
    ∃ ts', Prints (head ++ match filter with
        | some filter => " WHERE " ++ filter
        | none => "").toList (ts ++ ts') ∧ IsFilter level ts' e := by
  cases hsaid with
  | none => exact ⟨[], by simpa using h, .absent⟩
  | some hsaid =>
    obtain ⟨ts', hprints, hderived⟩ := hsaid
    exact ⟨kw "WHERE" :: ts',
      by simpa using h.clause "WHERE" (by decide) (by decide) hprints, .present hderived⟩

/-- **Statements.** A statement says what its clauses say. -/
lemma says_statementOf {columns sources ordering : List String} {filter : Option String}
    {o : Outline} (hne : columns ≠ [])
    (hcolumns : List.Forall₂ (Says (IsColumn reserved level)) columns o.columns)
    (hsources : List.Forall₂ (Says (IsTable reserved)) sources o.tables)
    (hfilter : Option.Rel (Says (level 0 0)) filter o.filter)
    (hordering : List.Forall₂ (Says (IsCriterion reserved)) ordering o.ordering) :
    Says (IsStatement reserved level) (Query.statementOf columns sources filter ordering) o := by
  obtain ⟨cs, hprints, hcolumns⟩ := says_commaSeparated hcolumns hne
  have hselect : Prints ("SELECT " ++ Query.commaSeparated columns).toList (kw "SELECT" :: cs) := by
    simpa using (prints_word (by decide : Reserved.isPlainWord "SELECT".toList = true)
      (by decide)).blank hprints
  have hby : Reserved.isPlainWord "BY".toList = true := by decide
  obtain ⟨fs, hfrom, hsources⟩ := hselect.listClause " FROM " ["FROM"]
    (fun _ _ h => by simpa using hselect.clause "FROM" (by decide) (by decide) h) hsources
  obtain ⟨ws, hwhere, hfilter⟩ := hfrom.filterClause hfilter
  obtain ⟨os, hall, hordering⟩ := hwhere.listClause " ORDER BY " ["ORDER", "BY"]
    (fun _ _ h => by
      simpa using hwhere.clause "ORDER" (by decide) (by decide) ((prints_word hby (by decide)).blank h))
    hordering
  refine ⟨_, hall, ?_⟩
  have := IsStatement.mk (.mk hcolumns hsources hfilter) hordering
  simpa using this

/-- A statement is not blank. -/
lemma statementOf_not_blank (columns sources : List String) (filter : Option String)
    (ordering : List String) :
    (Query.statementOf columns sources filter ordering).toList.all Text.isBlank = false := by
  have hselect : "SELECT ".toList.all Text.isBlank = false := by decide
  simp only [Query.statementOf, String.toList_append, List.all_append, hselect, Bool.false_and]

end Clauses

/-! ### Reading -/

section Reading

variable {reader : Reader}

/-- **Parts.** The parts of a text that says something are what it says, where the terms in it are
read as they are derived. -/
lemma Says.parts_of_reads {sql : String} {o : Outline} {terms : Level}
    (hdialect : reader.dialect = .ansi) (hreserved : reader.reserved.IsComplete)
    (hin : ReadsInside (reader.reading sql) (level 48) terms)
    (hblank : sql.toList.all Text.isBlank = false)
    (h : Says (IsStatement reader.reserved terms) sql o) :
    ∃ parts, reader.parts? sql = .ok parts ∧ o.SaidBy parts := by
  obtain ⟨ts, hprints, hstatement⟩ := h
  have hlexes := hprints.spells.lexes (fun c hc => by simp at hc)
  obtain ⟨located, htokens, hmap⟩ := hlexes.tokenize
  have htidy : Tidy located := fun l hl =>
    hprints.tame l.token (hmap ▸ List.mem_map_of_mem hl)
  obtain ⟨q, hread, hlowers⟩ :=
    hstatement.read (r := reader.reading sql) hreserved hin hmap htidy (rfl : 47 + 3 = depthLimit)
  obtain ⟨parts, hparts, hsaid⟩ := hlowers.parts_ok
  have hstatements : statementsOf reader.dialect sql = .ok [.query q] := by
    have hansi : ({ dialect := .ansi } : Context) = ansi := rfl
    simp only [statementsOf, hdialect, htokens, bind, Except.bind, hansi, hread]
    rfl
  refine ⟨parts, ?_, hsaid⟩
  simp only [Reader.parts?, hblank, Bool.false_eq_true, if_false, hstatements, Except.mapError,
    bind, Except.bind, Reading.onlyQuery, hparts]

/-- The same for a text that is derived. -/
lemma Says.parts {sql : String} {o : Outline} (hdialect : reader.dialect = .ansi)
    (hreserved : reader.reserved.IsComplete) (hblank : sql.toList.all Text.isBlank = false)
    (h : Says (IsStatement reader.reserved (derives reader.reserved 48)) sql o) :
    ∃ parts, reader.parts? sql = .ok parts ∧ o.SaidBy parts :=
  h.parts_of_reads hdialect hreserved
    (readsInside_level (r := reader.reading sql) hreserved 48) hblank

end Reading

end SelectBinding
