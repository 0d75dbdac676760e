import SelectBinding.Proofs.Sql.Callees
import SelectBinding.Proofs.Sql.Dotted
import SelectBinding.Proofs.Sql.Stripping
import SelectBinding.Proofs.Text.Queries

/-!
The calls of a statement, read again.

The name of a function is kept as one text, the parts of it with points between them, and written as
it is kept, without quotes. So it is read again only if it is made of plain words that are not
reserved: what was a blank or a parenthesis inside of quotes is one between the words of a
statement.
-/

namespace SelectBinding

open Sql Sql.Grammar Sql.Tokenizer

/-- The name and the number of arguments of the call that is the only column. -/
def Fragments.soleCall? (parts : Fragments) : Option (String × Nat) :=
  match parts.columns with
  | some [.call _ name args] => some (name, args.length)
  | _ => none

lemma Fragments.soleCall?_eq_some_iff {parts : Fragments} {name : String} {n : Nat} :
    parts.soleCall? = some (name, n) ↔
      ∃ kind args, parts.columns = some [.call kind name args] ∧ args.length = n := by
  unfold soleCall?
  split
  · next kind name' args h =>
    simp only [h, Option.some.injEq, Prod.mk.injEq, List.cons.injEq, Expr.call.injEq, and_true]
    exact ⟨fun ⟨hname, hn⟩ => ⟨kind, args, ⟨rfl, hname, rfl⟩, hn⟩,
      fun ⟨_, _, ⟨_, hname, hargs⟩, hn⟩ => ⟨hname, hargs ▸ hn⟩⟩
  · next h => simpa using fun kind args hcolumns _ => h kind name args hcolumns

/-! ### What is read -/

section Read

variable {word : String} {words : List String} {rest : List Char} {sql : String}

lemma scans_select (hname : IsCallee word words) (hrest : StopsWord .ansi rest) :
    Scans .ansi ("SELECT ".toList ++ ((Name.dotted (word :: words)).toList ++ rest))
      (kw "SELECT" :: .word word none :: pointedTokens words) rest := by
  have hselect : Reserved.isPlainWord "SELECT".toList = true := by decide
  have hdotted := scans_dotted hname.plain hrest
  exact (scans_word hselect (endsWord_blank _).stopsWord).trans
    (.blank (step_blank _) (Nat.le_refl _) hdotted)

/-- The first item of such a statement is no call but of a function whose name begins with the
words. -/
lemma statementsOf_callBegins (hname : IsCallee word words) (hrest : StopsWord .ansi rest)
    (hsql : sql.toList = "SELECT ".toList ++ ((Name.dotted (word :: words)).toList ++ rest))
    {statements : List StatementTree} (h : statementsOf .ansi sql = .ok statements) :
    ∃ idents, FirstCallBegins idents statements ∧ idents.map Ident.value = word :: words ∧
      ∀ ident ∈ idents, ident.quote = none := by
  obtain ⟨located, htokens, h⟩ := Except.bind_eq_ok_iff.mp h
  obtain ⟨more, hprefix⟩ := (hsql ▸ scans_select hname hrest).tokenize htokens
  obtain ⟨ls, rest, rfl, hls, -⟩ := List.map_eq_append_iff.mp hprefix.symm
  obtain ⟨l, ls, rfl, hl, hls⟩ := List.map_eq_cons_iff.mp hls
  obtain ⟨first, ls, rfl, hfirst, hls⟩ := List.map_eq_cons_iff.mp hls
  obtain ⟨idents, hpointed, hvalues, hbare⟩ := pointed_of_tokens hls
  refine ⟨wordIdent word none first.place :: idents, ?_, by simp [wordIdent, hvalues],
    by simpa [wordIdent] using hbare⟩
  have hreads := statements_callBegins hl hfirst hname.formless hpointed rest
  split at h
  · next found left hfound =>
    obtain rfl := Except.ok.inj h
    exact hreads _ _ hfound
  · cases h

end Read

namespace Reader

variable {reader : Reader} {word : String} {words : List String}

/-- If the columns of a statement are one call and the statement begins with words that may be the
name of a function, these words begin the name, and none of them is reserved. -/
lemma callee_of_parts? (hdialect : reader.dialect = .ansi) (hname : IsCallee word words)
    {rest : List Char} (hrest : StopsWord .ansi rest) {sql : String}
    (hsql : sql.toList = "SELECT ".toList ++ ((Name.dotted (word :: words)).toList ++ rest))
    {parts : Fragments} (h : reader.parts? sql = .ok parts) {name : String} {n : Nat}
    (hcall : parts.soleCall? = some (name, n)) :
    (∃ more, name = Name.dotted (word :: (words ++ more))) ∧
      ∀ w ∈ word :: words, reader.reserved.contains w = false := by
  obtain ⟨kind, args, hcolumns, -⟩ := Fragments.soleCall?_eq_some_iff.mp hcall
  obtain ⟨tree, hstatements, hfragments⟩ := fragments_of_parts? h
  rw [hdialect] at hstatements
  obtain ⟨idents, ⟨first, _, hfirst, hbegins⟩, hvalues, hbare⟩ :=
    statementsOf_callBegins hname hrest hsql hstatements
  obtain ⟨rfl, -⟩ := List.cons.inj hfirst
  obtain ⟨s, select, hbody, hitems⟩ := Reading.fragments_columns hfragments
  obtain ⟨item, _, hitem, hcallee⟩ := hbegins tree rfl s hbody
  rw [hitem, hcolumns] at hitems
  obtain ⟨hcolumn, -⟩ := List.forall₂_cons.mp hitems
  obtain ⟨t, rfl, callee, ht, values, hvalues', rfl⟩ := (reader.reading sql).column_calls hcolumn
  obtain ⟨hfree, rfl⟩ := (reader.reading sql).nameParts_ok_iff.mp hvalues'
  obtain ⟨more, rfl⟩ := hcallee callee ht
  refine ⟨⟨more.map Ident.value, by simp [hvalues, Name.dotted]⟩, fun w hw => ?_⟩
  rw [← hvalues] at hw
  obtain ⟨ident, hident, rfl⟩ := List.mem_map.mp hw
  exact hfree ident (List.mem_append_left _ hident) (hbare ident hident)

end Reader

/-! ### What is written -/

/-- The arguments of a call are read as just as many, wherever the call stands. -/
structure Expr.ReadableArguments (reserved : Reserved) (args : List Expr) : Prop where
  legible : legibleAll reserved true args = true
  unnamed : (tokensOfAll reserved args).all (fun ts => !beginsNamed ts) = true
  shallow : levelsOfAll args ≤ 47

instance (reserved : Reserved) (args : List Expr) :
    Decidable (Expr.ReadableArguments reserved args) :=
  decidable_of_iff (_ ∧ _ ∧ _)
    ⟨fun h => ⟨h.1, h.2.1, h.2.2⟩, fun h => ⟨h.legible, h.unnamed, h.shallow⟩⟩

lemma Expr.length_bareAll (es : List Expr) : (Expr.bareAll es).length = es.length := by
  induction es with
  | nil => rfl
  | cons e es ih => exact congrArg (· + 1) ih

lemma Expr.length_regroupedAll (es : List Expr) : (Expr.regroupedAll es).length = es.length := by
  induction es with
  | nil => rfl
  | cons e es ih => exact congrArg (· + 1) ih

section Written

variable {reserved : Reserved} {word : String} {words : List String}

/-- Words that are not reserved print their tokens. -/
lemma prints_dotted (hreserved : reserved.IsComplete) (hname : IsCallee word words)
    (hfree : ∀ w ∈ word :: words, reserved.contains w = false) :
    Spells .ansi EndsWord (Name.dotted (word :: words)).toList
        (.word word none :: pointedTokens words) ∧
      Prints (Name.dotted (word :: words)).toList (.word word none :: pointedTokens words) := by
  have hspells : Spells .ansi EndsWord (Name.dotted (word :: words)).toList
      (.word word none :: pointedTokens words) :=
    fun rest more hrest hmore => (scans_dotted hname.plain hrest.stopsWord).lexes hmore
  have hwords : ∀ w ∈ word :: words, Tame (.word w none) := fun w hw =>
    ⟨by simp [untidySigns],
      not_keyword_of_free hreserved (hname.plain w hw) (hfree w hw) (by decide)⟩
  have hpoint : Tame (.sign ".") := by decide
  rw [List.forall_mem_cons] at hwords
  have htame : ∀ t ∈ .word word none :: pointedTokens words, Tame t := by
    rw [List.forall_mem_cons]
    refine ⟨hwords.1, fun t ht => ?_⟩
    obtain ⟨w, hw, ht⟩ := List.mem_flatMap.mp ht
    simp only [List.mem_cons, List.not_mem_nil, or_false] at ht
    rcases ht with rfl | rfl
    · exact hpoint
    · exact hwords.2 w hw
  obtain ⟨c, cs, hcs, hbegins⟩ := (prints_word (hname.plain word (by simp)) hwords.1.2).begins
  refine ⟨hspells, hspells.mono fun _ h => h.endsWord, htame, c, cs ++ pointedChars words, ?_,
    by simpa using hbegins⟩
  rw [toList_dotted, hcs, List.cons_append]

/-- The text of a call of a function by such words says that it is one. -/
lemma says_call (hreserved : reserved.IsComplete) (hname : IsCallee word words)
    (hfree : ∀ w ∈ word :: words, reserved.contains w = false) (kind : CallKind) {args : List Expr}
    (hargs : Expr.ReadableArguments reserved args) :
    Says (IsColumn reserved (dottedCalls reserved (derives reserved 47)))
      ((Expr.call kind (Name.dotted (word :: words)) args).render reserved)
      (.call (Reading.callKind (Name.dotted (word :: words))) (Name.dotted (word :: words))
        (Expr.regroupedAll args)) := by
  obtain ⟨hspells, hprints⟩ := prints_dotted hreserved hname hfree
  have hinside : Expr.renderAll reserved args = "" ∧ listed (Expr.tokensOfAll reserved args) = [] ∨
      Prints (Expr.renderAll reserved args).toList (listed (Expr.tokensOfAll reserved args)) := by
    cases args with
    | nil => exact .inl ⟨rfl, rfl⟩
    | cons arg rest => exact .inr (Expr.printsAll hreserved _ hargs.legible (by simp))
  have hderived : listed (Expr.tokensOfAll reserved args) = [] ∧ Expr.regroupedAll args = [] ∨
      Listed (IsArgument reserved (derives reserved 47)) (listed (Expr.tokensOfAll reserved args))
        (Expr.regroupedAll args) := by
    cases args with
    | nil => exact .inl ⟨rfl, rfl⟩
    | cons arg rest =>
      refine .inr (listed_of_forall (by simp) fun arg harg => ?_)
      have hderived := Expr.allDerived _ hargs.legible arg harg
      have hbegins := List.all_eq_true.mp hargs.unnamed _ (tokens_mem_tokensOfAll harg)
      exact isArgument_of_derived hderived (by simpa using hbegins)
        (Nat.le_trans (levels_le_levelsOfAll harg) hargs.shallow)
  exact ⟨_, hprints.call hspells hinside, .term ⟨rfl, rfl, .mk hname hfree hderived⟩⟩

end Written

namespace Reader

variable {reader : Reader} {word : String} {words : List String} {args : List Expr}

/-- A call of a function by words that are not reserved is read as one with as many arguments. -/
lemma parts?_call (hdialect : reader.dialect = .ansi) (hreserved : reader.reserved.IsComplete)
    (hname : IsCallee word words) (hfree : ∀ w ∈ word :: words, reader.reserved.contains w = false)
    (kind : CallKind) (hargs : Expr.ReadableArguments reader.reserved args) :
    ∃ parts, reader.parts? ("SELECT " ++
        (Expr.call kind (Name.dotted (word :: words)) args).render reader.reserved) = .ok parts ∧
      parts.soleCall? = some (Name.dotted (word :: words), args.length) := by
  let text := (Expr.call kind (Name.dotted (word :: words)) args).render reader.reserved
  have hsql : Query.statementOf [text] [] none [] = "SELECT " ++ text := by
    simp [Query.statementOf, Query.commaSeparated]
  have hsays := says_statementOf (o := ⟨_, [], none, []⟩) (by simp)
    (.cons (says_call hreserved hname hfree kind hargs) .nil) .nil .none .nil
  have hblank := statementOf_not_blank [text] [] none []
  rw [hsql] at hsays hblank
  obtain ⟨parts, hparts, hsaid⟩ := hsays.parts_of_reads hdialect hreserved
    (readsInside_dottedCalls hreserved 47) hblank
  refine ⟨parts, hparts, Fragments.soleCall?_eq_some_iff.mpr ?_⟩
  obtain ⟨column, hsole, hcolumn⟩ := List.map_eq_singleton_iff.mp hsaid.columns
  have hsome : parts.columns = some [column] := by
    cases hcolumns : parts.columns with
    | none => simp [hcolumns] at hsole
    | some columns => simpa [hcolumns] using hsole
  cases column with
  | call kind' name args' =>
    obtain ⟨rfl, rfl, hbare⟩ : kind' = Reading.callKind (Name.dotted (word :: words)) ∧
        name = Name.dotted (word :: words) ∧ Expr.bareAll args' = Expr.regroupedAll args := by
      simpa [Expr.bare, Expr.mapVariables, Expr.bareAll] using hcolumn
    refine ⟨_, args', hsome, ?_⟩
    rw [← Expr.length_bareAll, hbare, Expr.length_regroupedAll]
  | _ => simp [Expr.bare, Expr.mapVariables] at hcolumn

/-- **Calls.** Let the name of a call begin with plain words that have points between them and may
be the name of a function, and let nothing after them go on with a word. The text of the call, as a
column, is read as a call with the same name and as many arguments exactly when nothing comes after
the words and none of them is reserved. The quotes that other names had are not written. -/
theorem call_reread_iff (hdialect : reader.dialect = .ansi)
    (hreserved : reader.reserved.IsComplete) (hname : IsCallee word words) {tail : String}
    (htail : StopsWord .ansi tail.toList) (hpoint : tail.toList.head? ≠ some '.') (kind : CallKind)
    (hargs : Expr.ReadableArguments reader.reserved args) :
    (∃ parts, reader.parts? ("SELECT " ++ (Expr.call kind (Name.dotted (word :: words) ++ tail)
        args).render reader.reserved) = .ok parts ∧
      parts.soleCall? = some (Name.dotted (word :: words) ++ tail, args.length)) ↔
      tail = "" ∧ ∀ w ∈ word :: words, reader.reserved.contains w = false := by
  constructor
  · rintro ⟨parts, hparts, hcall⟩
    have hsql : ("SELECT " ++ (Expr.call kind (Name.dotted (word :: words) ++ tail) args).render
        reader.reserved).toList = "SELECT ".toList ++ ((Name.dotted (word :: words)).toList ++
          (tail.toList ++ '(' :: ((Expr.renderAll reader.reserved args).toList ++ [')']))) := by
      simp [Expr.render]
    have hrest : StopsWord .ansi
        (tail.toList ++ '(' :: ((Expr.renderAll reader.reserved args).toList ++ [')'])) := by
      cases htoList : tail.toList with
      | nil => exact EndsWord.stopsWord (by simp [EndsWord, wordEnds])
      | cons c cs => exact fun d hd => htail d (by rwa [htoList])
    obtain ⟨⟨more, hmore⟩, hfree⟩ := callee_of_parts? hdialect hname hrest hsql hparts hcall
    have hchars := toList_of_dotted_append hmore
    refine ⟨?_, hfree⟩
    cases more with
    | nil => simpa [pointedChars] using hchars
    | cons w more => simp [hchars, pointedChars] at hpoint
  · rintro ⟨rfl, hfree⟩
    simpa using parts?_call hdialect hreserved hname hfree kind hargs

/-- The arguments of `net(id, COUNT(*))`. -/
def netArguments : List Expr :=
  [.var ⟨["id"], none, none⟩, .call .aggregate "COUNT" [.var ⟨["*"], none, none⟩]]

/-- A name of two words is kept when a point stands between them, and not when a blank does. -/
theorem call_reread_iff_ledger :
    (∃ parts, ledgerReader.parts? "SELECT price.net(id, COUNT(*))" = .ok parts ∧
      parts.soleCall? = some ("price.net", 2)) ∧
    ¬∃ parts, ledgerReader.parts? "SELECT price net(id, COUNT(*))" = .ok parts ∧
      parts.soleCall? = some ("price net", 2) := by
  have hargs : Expr.ReadableArguments ledgerReader.reserved netArguments := by decide +kernel
  have hcomplete : ledgerReader.reserved.IsComplete := fun _ h => h
  have hblank : StopsWord .ansi " net".toList ∧ " net".toList.head? ≠ some '.' :=
    ⟨(endsWord_blank _).stopsWord, by decide⟩
  have hnothing : StopsWord .ansi "".toList := by simp [StopsWord]
  have hpoint := call_reread_iff rfl hcomplete (by decide +kernel : IsCallee "price" ["net"])
    hnothing (by decide) .function hargs
  have hother := call_reread_iff rfl hcomplete (by decide +kernel : IsCallee "price" [])
    hblank.1 hblank.2 .function hargs
  have htexts : "SELECT " ++ (Expr.call .function (Name.dotted ["price", "net"] ++ "")
      netArguments).render ledgerReader.reserved = "SELECT price.net(id, COUNT(*))" ∧
      "SELECT " ++ (Expr.call .function (Name.dotted ["price"] ++ " net")
        netArguments).render ledgerReader.reserved = "SELECT price net(id, COUNT(*))" := by
    decide +kernel
  have hnames : Name.dotted ["price", "net"] ++ "" = "price.net" ∧
      Name.dotted ["price"] ++ " net" = "price net" := by
    decide
  rw [htexts.1, hnames.1] at hpoint
  rw [htexts.2, hnames.2] at hother
  exact ⟨hpoint.mpr ⟨rfl, by decide⟩, fun h => absurd (hother.mp h).1 (by decide)⟩

/-- The name of a function in quotes is written without them, and then it is no name any more. -/
theorem quoted_callee_lost : ∃ parts,
    ledgerReader.parts? "SELECT \"my func\"(id) FROM accounts" = .ok parts ∧
      parts.soleCall? = some ("my func", 1) ∧
      ∀ e ∈ parts.columns.getD [],
        ¬∃ again, ledgerReader.parts? ("SELECT " ++ e.render ledgerReader.reserved) = .ok again ∧
          again.soleCall? = some ("my func", 1) := by
  obtain ⟨parts, h, hcall⟩ := Except.exists_of_toOption_map
    (x := ledgerReader.parts? "SELECT \"my func\"(id) FROM accounts") (f := Fragments.soleCall?)
    (b := some ("my func", 1)) (by decide +kernel)
  have htexts : (parts.columns.getD []).map (·.render ledgerReader.reserved) = ["my func(id)"] :=
    Except.eq_of_toOption_map h (f := fun parts =>
      (parts.columns.getD []).map (·.render ledgerReader.reserved)) (by decide +kernel)
  have hagain : (ledgerReader.parts? ("SELECT " ++ "my func(id)")).isOk = false := by decide +kernel
  refine ⟨parts, h, hcall, fun e he => ?_⟩
  rintro ⟨again, hok, -⟩
  have htext := List.mem_map_of_mem (f := (·.render ledgerReader.reserved)) he
  rw [htexts, List.mem_singleton] at htext
  rw [← htext, hok] at hagain
  cases hagain

end Reader

end SelectBinding
