import SelectBinding.Proofs.Text.Spelling

/-!
Operations are read in one way only.

The text of an expression of operations says which expression it is. Its tokens can be cancelled
from the front of anything that goes on after them: an operand that is an operation stands in
parentheses, so the first operator outside of all parentheses is the one at the root.
-/

namespace SelectBinding

open Sql Sql.Grammar Sql.Tokenizer

/-! ### Expressions of operations -/

/-- Whether a literal is shown as it is, with no digit of it lost. -/
def Constant.isExact : Constant → Bool
  | .real _ => false
  | _ => true

/-- Operations on literals and variables. The right side of a question of membership is a list of
such expressions, and there are no other lists. -/
inductive Expr.Dyadic : Expr → Prop where
  | const {value : Constant} (hvalue : value.isExact = true) : Dyadic (.const value)
  | var {v : Variable} (hparts : v.parts ≠ []) : Dyadic (.var v)
  | operation {op : BinaryOp} {left right : Expr} (hop : op.asksMembership = false)
      (hleft : Dyadic left) (hright : Dyadic right) : Dyadic (.binary op.family op left right)
  | membership {op : BinaryOp} {left : Expr} {items : List Expr} (hop : op.asksMembership = true)
      (hleft : Dyadic left) (hitems : ∀ item ∈ items, Dyadic item) :
      Dyadic (.binary op.family op left (.list items))

/-- The tokens of a literal. A number below zero has a sign before its digits. -/
def Constant.tokens : Constant → List Token
  | .integer (.negSucc n) => [.sign "-", .number (toString (n + 1)) false]
  | value => [value.token]

namespace Expr

variable (reserved : Reserved)

mutual

/-- The tokens of an expression of operations. -/
def written : Expr → List Token
  | .const value => value.tokens
  | .var v => reserved.dottedTokens v.parts
  | .binary _ op left right =>
    enclosedTokens left.isOperation left.written ++
      (op.tokens ++ enclosedTokens (enclosedAfter op right) right.written)
  | .list items => listed (writtenAll items)
  | .unary _ _ | .call _ _ _ | .underName _ _ _ => []

/-- The tokens of each expression of a list. -/
def writtenAll : List Expr → List (List Token)
  | [] => []
  | item :: rest => item.written :: writtenAll rest

end

end Expr

/-! ### Printing -/

section Printing

variable {reserved : Reserved}

lemma Constant.prints {value : Constant} (h : value.isExact = true) :
    Prints value.render.toList value.tokens := by
  cases value with
  | null => exact prints_constant rfl
  | boolean b => exact prints_constant rfl
  | integer n =>
    cases n with
    | ofNat n => exact prints_numeral (isNumeral_natural n)
    | negSucc n =>
      have hdigits := prints_numeral (isNumeral_natural (n + 1))
      have hsign : Constant.render (.integer (.negSucc n)) = "-" ++ toString (n + 1) := rfl
      rw [hsign, String.toList_append]
      exact hdigits.minus (by simp)
  | real x => cases h
  | text s => exact prints_constant rfl

lemma prints_nothing : Prints ['(', ')'] [.sign "(", .sign ")"] := by
  have hopen := spells_mark (by decide : ('(', "(") ∈ marks)
  have hclose := spells_mark (by decide : (')', ")") ∈ marks)
  refine ⟨(hopen.append hclose fun _ _ => trivial).mono fun _ _ => trivial, by decide, '(', [')'],
    rfl, by decide, fun heq => absurd heq (by decide)⟩

lemma printsAll_of_prints {items : List Expr} (hne : items ≠ [])
    (h : ∀ item ∈ items, Prints (item.render reserved).toList (item.written reserved)) :
    Prints (Expr.renderAll reserved items).toList (listed (Expr.writtenAll reserved items)) := by
  induction items with
  | nil => exact absurd rfl hne
  | cons item rest ih =>
    obtain ⟨hitem, hrest⟩ := List.forall_mem_cons.mp h
    cases rest with
    | nil => simpa [Expr.renderAll, Expr.writtenAll, listed] using hitem
    | cons item' rest =>
      have := hitem.comma (ih (by simp) hrest)
      simpa [Expr.renderAll, Expr.writtenAll, listed] using this

/-- The text of an expression of operations prints its tokens. -/
lemma Expr.Dyadic.prints (hreserved : reserved.IsComplete) {e : Expr} (h : e.Dyadic) :
    Prints (e.render reserved).toList (e.written reserved) := by
  induction h with
  | const hvalue => exact Constant.prints hvalue
  | var hparts => exact prints_variable hreserved hparts
  | @operation op left right hop hleft hright ihleft ihright =>
    have := (ihleft.encloses left.isOperation).operation
      (ihright.encloses (enclosedAfter op right)) op
    simpa [render, written] using this
  | @membership op left items hop hleft hitems ihleft ihitems =>
    have hlist : Prints (enclosed true (renderAll reserved items)).toList
        (enclosedTokens true (listed (writtenAll reserved items))) := by
      by_cases hne : items = []
      · subst hne
        simpa [enclosed, renderAll, enclosedTokens, writtenAll, listed] using prints_nothing
      · exact (printsAll_of_prints hne ihitems).encloses true
    have := (ihleft.encloses left.isOperation).operation hlist op
    simpa [render, written, enclosedAfter, hop, isList] using this

/-- A text is made of one list of tokens only. -/
lemma Prints.unique {cs : List Char} {ts ts' : List Token} (h : Prints cs ts)
    (h' : Prints cs ts') : ts = ts' := by
  have hends : EndsTerm [] := by simp [EndsTerm]
  obtain ⟨located, hlocated, hts⟩ := (h.spells.lexes hends).tokensFrom _ (Nat.le_refl _) .start
  obtain ⟨located', hlocated', hts'⟩ := (h'.spells.lexes hends).tokensFrom _ (Nat.le_refl _) .start
  rw [hlocated] at hlocated'
  rw [← hts, ← hts', Except.ok.inj hlocated']

end Printing

/-! ### Cancelling names and literals -/

/-- What follows a name does not go on with it. -/
def EndsName (ts : List Token) : Prop :=
  ts.head? ≠ some (.sign ".")

/-- What follows an expression is a comma, a closing parenthesis or nothing. -/
def EndsOperations (ts : List Token) : Prop :=
  ∀ t ∈ ts.head?, t = .sign "," ∨ t = .sign ")"

lemma EndsOperations.endsName {ts : List Token} (h : EndsOperations ts) : EndsName ts := by
  intro hpoint
  rcases h _ hpoint with h | h <;> simp at h

section Cancelling

variable {reserved : Reserved} {ts ts' : List Token}

lemma partToken_injective (reserved : Reserved) {part part' : String}
    (h : reserved.partToken part = reserved.partToken part') : part = part' := by
  unfold Reserved.partToken Reserved.token at h
  by_cases hpart : part = "*" <;> by_cases hpart' : part' = "*" <;> simp_all

/-- A name can be cancelled where it does not go on. -/
lemma dottedTokens_cancel {parts parts' : List String} (hne : parts ≠ []) (hne' : parts' ≠ [])
    (hends : EndsName ts) (hends' : EndsName ts')
    (h : reserved.dottedTokens parts ++ ts = reserved.dottedTokens parts' ++ ts') :
    parts = parts' ∧ ts = ts' := by
  induction parts generalizing parts' with
  | nil => exact absurd rfl hne
  | cons part rest ih =>
    obtain ⟨part', rest', rfl⟩ := List.exists_cons_of_ne_nil hne'
    cases rest with
    | nil =>
      cases rest' with
      | nil =>
        obtain ⟨hpart, rfl⟩ := List.cons.inj h
        exact ⟨by rw [partToken_injective reserved hpart], rfl⟩
      | cons =>
        obtain ⟨-, rfl⟩ := List.cons.inj h
        exact absurd rfl hends
    | cons =>
      cases rest' with
      | nil =>
        obtain ⟨-, rfl⟩ := List.cons.inj h
        exact absurd rfl hends'
      | cons =>
        obtain ⟨hpart, h⟩ := List.cons.inj h
        obtain ⟨hrest, hts⟩ := ih (by simp) (by simp) (List.cons.inj h).2
        exact ⟨by rw [partToken_injective reserved hpart, hrest], hts⟩

/-- Whole numbers without a sign are told apart by their digits. -/
lemma repr_eq_iff (n n' : Nat) : n.repr = n'.repr ↔ n = n' := by
  refine ⟨fun h => ?_, congrArg _⟩
  have := Decimal.natural?_toString n
  rw [Nat.toString_eq_repr, h, ← Nat.toString_eq_repr, Decimal.natural?_toString] at this
  exact (Option.some.inj this).symm

/-- A literal can be cancelled. -/
lemma Constant.tokens_cancel {value value' : Constant} (hvalue : value.isExact = true)
    (hvalue' : value'.isExact = true) (h : value.tokens ++ ts = value'.tokens ++ ts') :
    value = value' ∧ ts = ts' := by
  have hnat := repr_eq_iff
  have hint (n n' : Nat) : (n : Int).repr = (n' : Int).repr ↔ n = n' := repr_eq_iff n n'
  rcases value with _ | (_ | _) | (n | n) | x | s <;>
    rcases value' with _ | (_ | _) | (n' | n') | x' | s' <;>
    simp_all [tokens, token, kw, isExact]

lemma partToken_ne_sign (reserved : Reserved) (part : String) {sign : String} (hsign : sign ≠ "*") :
    reserved.partToken part ≠ .sign sign := by
  unfold Reserved.partToken Reserved.token
  split
  · simpa using hsign.symm
  · simp

/-- A part of a name is no literal. -/
lemma partToken_ne_token (hreserved : reserved.IsComplete) (part : String) (value : Constant) :
    reserved.partToken part ≠ value.token := by
  have hpart {word : String} (hword : word ∈ quotedWords) :
      Token.isKeyword word (reserved.token part) = false :=
    (reserved.isPart_token part).not_keyword hreserved hword
  obtain ⟨quote, hword⟩ := (reserved.isPart_token part).eq_word
  unfold Reserved.partToken
  intro h
  split at h
  · rcases value with _ | (_ | _) | n | x | s <;> simp [Constant.token] at h
  · rcases value with _ | (_ | _) | n | x | s
    · exact absurd (hpart (by decide : "NULL" ∈ quotedWords)) (by rw [h]; decide)
    · exact absurd (hpart (by decide : "FALSE" ∈ quotedWords)) (by rw [h]; decide)
    · exact absurd (hpart (by decide : "TRUE" ∈ quotedWords)) (by rw [h]; decide)
    all_goals simp [hword, Constant.token] at h

/-- A literal begins with its token or with the sign before its digits. -/
lemma Constant.tokens_eq_cons (value : Constant) :
    ∃ t more, value.tokens = t :: more ∧ (t = value.token ∨ t = .sign "-") := by
  unfold tokens
  split
  · exact ⟨_, _, rfl, .inr rfl⟩
  · exact ⟨_, _, rfl, .inl rfl⟩

lemma dottedTokens_eq_cons (reserved : Reserved) {parts : List String} (hparts : parts ≠ []) :
    ∃ part more, reserved.dottedTokens parts = reserved.partToken part :: more := by
  match parts, hparts with
  | [part], _ => exact ⟨part, [], rfl⟩
  | part :: part' :: rest, _ => exact ⟨part, _, rfl⟩

/-- No name begins as a literal. -/
lemma Constant.tokens_ne_dottedTokens (hreserved : reserved.IsComplete) (value : Constant)
    {parts : List String} (hparts : parts ≠ []) :
    value.tokens ++ ts ≠ reserved.dottedTokens parts ++ ts' := by
  obtain ⟨t, more, hvalue, ht⟩ := value.tokens_eq_cons
  obtain ⟨part, more', hpart⟩ := dottedTokens_eq_cons reserved hparts
  rw [hvalue, hpart]
  intro h
  obtain ⟨rfl, -⟩ := List.cons.inj h
  rcases ht with ht | ht
  · exact partToken_ne_token hreserved part value ht
  · exact partToken_ne_sign reserved part (by decide) ht

end Cancelling

/-! ### Cancelling expressions -/

section Expressions

variable {reserved : Reserved}

open SelectBinding.Expr (Dyadic)

/-- Tokens in parentheses or not begin as none that ends an expression. -/
lemma enclosedTokens_eq_cons {ends : List Token} (hends : .sign "(" ∉ ends) (needed : Bool)
    {ts : List Token} (h : ∃ t more, ts = t :: more ∧ t ∉ ends) :
    ∃ t more, enclosedTokens needed ts = t :: more ∧ t ∉ ends := by
  cases needed with
  | false => exact h
  | true => exact ⟨_, _, rfl, hends⟩

variable (reserved) in
lemma leaf_written_eq_cons {e : Expr} (h : e.Dyadic) (hleaf : e.isOperation = false) :
    ∃ t more, e.written reserved = t :: more ∧ t ∉ [.sign ")", .sign ",", .sign "("] := by
  have hconst (value : Constant) : value.token ∉ [.sign ")", .sign ",", .sign "("] := by
    rcases value with _ | (_ | _) | n | x | s <;> simp [Constant.token]
  cases h with
  | @const value =>
    obtain ⟨t, more, hmore, ht⟩ := value.tokens_eq_cons
    refine ⟨t, more, hmore, ?_⟩
    rcases ht with rfl | rfl
    · exact hconst value
    · decide
  | @var v hparts =>
    obtain ⟨part, more, hmore⟩ := dottedTokens_eq_cons reserved hparts
    exact ⟨_, more, hmore, by simp [partToken_ne_sign reserved part]⟩
  | operation | membership => simp [Expr.isOperation] at hleaf

variable (reserved) in
/-- An expression of operations begins with a token that ends none. -/
lemma Expr.Dyadic.written_eq_cons {e : Expr} (h : e.Dyadic) :
    ∃ t more, e.written reserved = t :: more ∧ t ∉ [.sign ")", .sign ","] := by
  have hoperation {ts ts' : List Token} {needed : Bool}
      (hleft : ∃ t more, ts = t :: more ∧ t ∉ [.sign ")", .sign ","]) :
      ∃ t more, enclosedTokens needed ts ++ ts' = t :: more ∧ t ∉ [.sign ")", .sign ","] := by
    obtain ⟨t, more, hmore, ht⟩ := enclosedTokens_eq_cons (by decide) needed hleft
    exact ⟨t, more ++ ts', by rw [hmore, List.cons_append], ht⟩
  have hleaf {e : Expr} (he : e.Dyadic) (hleaf : e.isOperation = false) :
      ∃ t more, e.written reserved = t :: more ∧ t ∉ [.sign ")", .sign ","] := by
    obtain ⟨t, more, hmore, ht⟩ := leaf_written_eq_cons reserved he hleaf
    exact ⟨t, more, hmore, by simp_all⟩
  induction h with
  | const hvalue => exact hleaf (.const hvalue) rfl
  | var hparts => exact hleaf (.var hparts) rfl
  | operation hop hleft hright ihleft ihright =>
    rw [written]
    exact hoperation ihleft
  | membership hop hleft hitems ihleft ihitems =>
    rw [written]
    exact hoperation ihleft

/-- Every operator between two arguments. -/
def BinaryOp.all : List BinaryOp :=
  [.add, .subtract, .multiply, .divide, .modulo, .concat, .bitwiseAnd, .bitwiseOr, .bitwiseXor,
    .shiftLeft, .shiftRight, .eq, .notEq, .lt, .ltEq, .gt, .gtEq, .like, .notLike, .isIn, .notIn,
    .and, .or, .xor]

lemma BinaryOp.mem_all (op : BinaryOp) : op ∈ BinaryOp.all := by
  cases op <;> decide

/-- An operator can be cancelled: the tokens of none are the first ones of another. -/
lemma BinaryOp.tokens_cancel {op op' : BinaryOp} {ts ts' : List Token}
    (h : op.tokens ++ ts = op'.tokens ++ ts') : op = op' ∧ ts = ts' := by
  have hall : ∀ op ∈ BinaryOp.all, ∀ op' ∈ BinaryOp.all,
      op.tokens.isPrefixOf op'.tokens = true → op = op' := by
    decide +kernel
  have heq : op = op' := by
    rcases List.append_eq_append_iff.mp h with ⟨more, hmore, -⟩ | ⟨more, hmore, -⟩
    · exact hall op op.mem_all op' op'.mem_all (by simp [hmore])
    · exact (hall op' op'.mem_all op op.mem_all (by simp [hmore])).symm
  subst heq
  exact ⟨rfl, List.append_cancel_left h⟩

lemma BinaryOp.tokens_eq_cons (op : BinaryOp) :
    ∃ t more, op.tokens = t :: more ∧ t ∉ [.sign ".", .sign ")", .sign ","] := by
  cases op <;> exact ⟨_, _, rfl, by decide⟩

lemma BinaryOp.endsName (op : BinaryOp) (ts : List Token) : EndsName (op.tokens ++ ts) := by
  obtain ⟨t, more, hmore, ht⟩ := op.tokens_eq_cons
  rw [hmore]
  intro h
  obtain rfl := Option.some.inj h
  simp at ht

lemma BinaryOp.not_endsOperations (op : BinaryOp) (ts : List Token) :
    ¬EndsOperations (op.tokens ++ ts) := by
  obtain ⟨t, more, hmore, ht⟩ := op.tokens_eq_cons
  rw [hmore]
  intro h
  have := h t rfl
  simp_all

/-- The tokens of an expression can be cancelled in front of anything that ends it: they say which
expression it is but for places and bindings. -/
def Cancels (reserved : Reserved) (e : Expr) : Prop :=
  ∀ (e' : Expr) (ts ts' : List Token), e'.Dyadic → EndsOperations ts → EndsOperations ts' →
    e.written reserved ++ ts = e'.written reserved ++ ts' → e.bare = e'.bare ∧ ts = ts'

variable {ts ts' : List Token}

/-- Literals and variables can be cancelled in front of anything at which a name ends. -/
lemma leaf_cancel (hreserved : reserved.IsComplete) {e e' : Expr} (he : e.Dyadic) (he' : e'.Dyadic)
    (hleaf : e.isOperation = false) (hleaf' : e'.isOperation = false) (hts : EndsName ts)
    (hts' : EndsName ts') (h : e.written reserved ++ ts = e'.written reserved ++ ts') :
    e.bare = e'.bare ∧ ts = ts' := by
  cases he with
  | @const value hvalue =>
    cases he' with
    | const hvalue' =>
      obtain ⟨rfl, hmore⟩ := Constant.tokens_cancel hvalue hvalue' h
      exact ⟨rfl, hmore⟩
    | var hparts' => exact absurd h (value.tokens_ne_dottedTokens hreserved hparts')
    | operation | membership => simp [Expr.isOperation] at hleaf'
  | @var v hparts =>
    cases he' with
    | @const value' hvalue' =>
      exact absurd h.symm (value'.tokens_ne_dottedTokens hreserved hparts)
    | @var v' hparts' =>
      obtain ⟨hnames, hmore⟩ := dottedTokens_cancel hparts hparts' hts hts' h
      refine ⟨?_, hmore⟩
      simp [Expr.bare, Expr.mapVariables, Variable.bare, hnames]
    | operation | membership => simp [Expr.isOperation] at hleaf'
  | operation | membership => simp [Expr.isOperation] at hleaf

lemma endsOperations_close (ts : List Token) : EndsOperations (.sign ")" :: ts) := by
  intro t ht
  exact .inr (Option.some.inj ht).symm

lemma endsOperations_comma (ts : List Token) : EndsOperations (.sign "," :: ts) := by
  intro t ht
  exact .inl (Option.some.inj ht).symm

/-- An operand can be cancelled in front of anything at which a name ends, since an operation stands
in parentheses. -/
lemma operand_cancel (hreserved : reserved.IsComplete) {e e' : Expr} (he : e.Dyadic)
    (he' : e'.Dyadic) (hcancels : Cancels reserved e) (hts : EndsName ts) (hts' : EndsName ts')
    (h : enclosedTokens e.isOperation (e.written reserved) ++ ts =
      enclosedTokens e'.isOperation (e'.written reserved) ++ ts') :
    e.bare = e'.bare ∧ ts = ts' := by
  cases hop : e.isOperation <;> cases hop' : e'.isOperation <;>
    simp only [hop, hop', enclosedTokens, Bool.false_eq_true, if_false, if_true,
      List.cons_append, List.append_assoc, List.nil_append] at h
  · exact leaf_cancel hreserved he he' hop hop' hts hts' h
  · obtain ⟨t, more, hmore, ht⟩ := leaf_written_eq_cons reserved he hop
    rw [hmore] at h
    obtain ⟨rfl, -⟩ := List.cons.inj h
    simp at ht
  · obtain ⟨t, more, hmore, ht⟩ := leaf_written_eq_cons reserved he' hop'
    rw [hmore] at h
    obtain ⟨rfl, -⟩ := List.cons.inj h
    simp at ht
  · obtain ⟨heq, hmore⟩ := hcancels e' _ _ he' (endsOperations_close ts) (endsOperations_close ts')
      (List.cons.inj h).2
    exact ⟨heq, (List.cons.inj hmore).2⟩

/-- No list has nothing where another one has an item. -/
lemma close_ne_written {item : Expr} (h : item.Dyadic) (rest : List Expr) :
    .sign ")" :: ts ≠ listed (Expr.writtenAll reserved (item :: rest)) ++ ts' := by
  obtain ⟨t, more, hmore, ht⟩ := h.written_eq_cons reserved
  intro heq
  cases rest with
  | nil =>
    simp only [Expr.writtenAll, listed, hmore, List.cons_append, List.cons.injEq] at heq
    simp [← heq.1] at ht
  | cons =>
    simp only [Expr.writtenAll, listed, hmore, List.cons_append, List.cons.injEq] at heq
    simp [← heq.1] at ht

/-- The items of a list can be cancelled in front of the closing parenthesis. -/
lemma items_cancel {items items' : List Expr} (hitems' : ∀ item ∈ items', item.Dyadic)
    (hitems : ∀ item ∈ items, item.Dyadic) (hcancels : ∀ item ∈ items, Cancels reserved item)
    (h : listed (Expr.writtenAll reserved items) ++ .sign ")" :: ts =
      listed (Expr.writtenAll reserved items') ++ .sign ")" :: ts') :
    Expr.bareAll items = Expr.bareAll items' ∧ ts = ts' := by
  induction items generalizing items' with
  | nil =>
    cases items' with
    | nil => exact ⟨rfl, (List.cons.inj h).2⟩
    | cons item' rest' => exact absurd h (close_ne_written (hitems' item' (by simp)) rest')
  | cons item rest ih =>
    obtain ⟨hitem, hrest⟩ := List.forall_mem_cons.mp hitems
    obtain ⟨hcancel, hmore⟩ := List.forall_mem_cons.mp hcancels
    cases items' with
    | nil => exact absurd h.symm (close_ne_written hitem rest)
    | cons item' rest' =>
      obtain ⟨hitem', hrest'⟩ := List.forall_mem_cons.mp hitems'
      have hfirst := hcancel item'
      cases rest <;> cases rest' <;>
        simp only [Expr.writtenAll, listed, List.append_assoc, List.cons_append] at h
      · obtain ⟨heq, hts⟩ := hfirst _ _ hitem' (endsOperations_close _) (endsOperations_close _) h
        exact ⟨congrArg (· :: []) heq, (List.cons.inj hts).2⟩
      · obtain ⟨-, hts⟩ := hfirst _ _ hitem' (endsOperations_close _) (endsOperations_comma _) h
        simp at hts
      · obtain ⟨-, hts⟩ := hfirst _ _ hitem' (endsOperations_comma _) (endsOperations_close _) h
        simp at hts
      · obtain ⟨heq, hts⟩ := hfirst _ _ hitem' (endsOperations_comma _) (endsOperations_comma _) h
        obtain ⟨hrests, hts⟩ := ih hrest' hrest hmore (List.cons.inj hts).2
        exact ⟨congrArg₂ List.cons heq hrests, hts⟩

lemma written_operation {op : BinaryOp} (hop : op.asksMembership = false) (left right : Expr) :
    (Expr.binary op.family op left right).written reserved =
      enclosedTokens left.isOperation (left.written reserved) ++
        (op.tokens ++ enclosedTokens right.isOperation (right.written reserved)) := by
  simp [Expr.written, Expr.enclosedAfter, hop]

lemma written_membership {op : BinaryOp} (hop : op.asksMembership = true) (left : Expr)
    (items : List Expr) :
    (Expr.binary op.family op left (.list items)).written reserved =
      enclosedTokens left.isOperation (left.written reserved) ++
        (op.tokens ++ .sign "(" :: (listed (Expr.writtenAll reserved items) ++ [.sign ")"])) := by
  simp [Expr.written, Expr.enclosedAfter, hop, Expr.isList, enclosedTokens]

/-- The left side of an operation and its operator can be cancelled. -/
lemma left_cancel (hreserved : reserved.IsComplete) {left left' : Expr} (hleft : left.Dyadic)
    (hleft' : left'.Dyadic) (hcancels : Cancels reserved left) {op op' : BinaryOp}
    (h : enclosedTokens left.isOperation (left.written reserved) ++ (op.tokens ++ ts) =
      enclosedTokens left'.isOperation (left'.written reserved) ++ (op'.tokens ++ ts')) :
    left.bare = left'.bare ∧ op = op' ∧ ts = ts' := by
  obtain ⟨heq, hmore⟩ := operand_cancel hreserved hleft hleft' hcancels (op.endsName _)
    (op'.endsName _) h
  exact ⟨heq, BinaryOp.tokens_cancel hmore⟩

/-- An expression of operations that is none itself is not followed by an operator. -/
lemma leaf_ne_operation (hreserved : reserved.IsComplete) {e left : Expr} (he : e.Dyadic)
    (hleaf : e.isOperation = false) (hleft : left.Dyadic) {op : BinaryOp}
    (hts : EndsOperations ts) :
    e.written reserved ++ ts ≠
      enclosedTokens left.isOperation (left.written reserved) ++ (op.tokens ++ ts') := by
  intro h
  cases hop : left.isOperation with
  | false =>
    rw [hop] at h
    obtain ⟨-, rfl⟩ := leaf_cancel hreserved he hleft hleaf hop hts.endsName (op.endsName _) h
    exact op.not_endsOperations _ hts
  | true =>
    obtain ⟨t, more, hmore, ht⟩ := leaf_written_eq_cons reserved he hleaf
    rw [hop, hmore] at h
    obtain ⟨rfl, -⟩ := List.cons.inj h
    simp at ht

lemma leaf_cancels (hreserved : reserved.IsComplete) {e : Expr} (he : e.Dyadic)
    (hleaf : e.isOperation = false) : Cancels reserved e := by
  intro e' ts ts' he' hts hts' h
  cases hop' : e'.isOperation with
  | false => exact leaf_cancel hreserved he he' hleaf hop' hts.endsName hts'.endsName h
  | true =>
    cases he' with
    | const | var => simp [Expr.isOperation] at hop'
    | operation hop hleft hright =>
      simp only [written_operation hop, List.append_assoc] at h
      exact absurd h (leaf_ne_operation hreserved he hleaf hleft hts)
    | membership hop hleft hitems =>
      simp only [written_membership hop, List.append_assoc] at h
      exact absurd h (leaf_ne_operation hreserved he hleaf hleft hts)

/-- The tokens of an expression of operations can be cancelled. -/
lemma Expr.Dyadic.cancels (hreserved : reserved.IsComplete) {e : Expr} (h : e.Dyadic) :
    Cancels reserved e := by
  induction h with
  | const hvalue => exact leaf_cancels hreserved (.const hvalue) rfl
  | var hparts => exact leaf_cancels hreserved (.var hparts) rfl
  | @operation op left right hop hleft hright ihleft ihright =>
    intro e' ts ts' he' hts hts' h
    simp only [written_operation hop, List.append_assoc] at h
    cases he' with
    | const hvalue =>
      exact absurd h.symm (leaf_ne_operation hreserved (.const hvalue) rfl hleft hts')
    | var hparts =>
      exact absurd h.symm (leaf_ne_operation hreserved (.var hparts) rfl hleft hts')
    | @operation op' left' right' hop' hleft' hright' =>
      simp only [written_operation hop', List.append_assoc] at h
      obtain ⟨hl, rfl, hmore⟩ := left_cancel hreserved hleft hleft' ihleft h
      obtain ⟨hr, hts⟩ := operand_cancel hreserved hright hright' ihright hts.endsName
        hts'.endsName hmore
      exact ⟨congrArg₂ (Expr.binary op.family op) hl hr, hts⟩
    | @membership op' left' items' hop' hleft' hitems' =>
      simp only [written_membership hop', List.append_assoc] at h
      obtain ⟨-, rfl, -⟩ := left_cancel hreserved hleft hleft' ihleft h
      simp [hop] at hop'
  | @membership op left items hop hleft hitems ihleft ihitems =>
    intro e' ts ts' he' hts hts' h
    simp only [written_membership hop, List.append_assoc] at h
    cases he' with
    | const hvalue =>
      exact absurd h.symm (leaf_ne_operation hreserved (.const hvalue) rfl hleft hts')
    | var hparts =>
      exact absurd h.symm (leaf_ne_operation hreserved (.var hparts) rfl hleft hts')
    | @operation op' left' right' hop' hleft' hright' =>
      simp only [written_operation hop', List.append_assoc] at h
      obtain ⟨-, rfl, -⟩ := left_cancel hreserved hleft hleft' ihleft h
      simp [hop] at hop'
    | @membership op' left' items' hop' hleft' hitems' =>
      simp only [written_membership hop', List.append_assoc, List.cons_append,
        List.nil_append] at h
      obtain ⟨hl, rfl, hmore⟩ := left_cancel hreserved hleft hleft' ihleft h
      obtain ⟨hr, hts⟩ := items_cancel hitems' hitems ihitems (List.cons.inj hmore).2
      exact ⟨congrArg₂ (Expr.binary op.family op) hl (congrArg Expr.list hr), hts⟩

end Expressions

/-! ### Trees -/

section Trees

variable (reserved : Reserved)

lemma isOperation_bare (e : Expr) : e.bare.isOperation = e.isOperation := by
  cases e <;> rfl

lemma enclosedAfter_bare (op : BinaryOp) (e : Expr) :
    Expr.enclosedAfter op e.bare = Expr.enclosedAfter op e := by
  cases e <;> rfl

mutual

/-- Places and bindings are not shown. -/
lemma Expr.render_bare (e : Expr) : e.bare.render reserved = e.render reserved := by
  cases e with
  | const value => rfl
  | var v => rfl
  | unary op arg =>
    have harg := Expr.render_bare arg
    have hneeded := isOperation_bare arg
    simp only [bare] at harg hneeded
    simp only [bare, mapVariables, render, harg, hneeded]
  | binary family op left right =>
    have hleft := Expr.render_bare left
    have hright := Expr.render_bare right
    have hneeded := isOperation_bare left
    have hneeded' := enclosedAfter_bare op right
    simp only [bare] at hleft hright hneeded hneeded'
    simp only [bare, mapVariables, render, hleft, hright, hneeded, hneeded']
  | call kind name args =>
    have hargs := Expr.renderAll_bareAll args
    simp only [bareAll] at hargs
    simp only [bare, mapVariables, render, hargs]
  | underName expr name explicitAs =>
    have hexpr := Expr.render_bare expr
    have hname := Expr.render_bare name
    simp only [bare] at hexpr hname
    simp only [bare, mapVariables, render, hexpr, hname]
  | list args =>
    have hargs := Expr.renderAll_bareAll args
    simp only [bareAll] at hargs
    simp only [bare, mapVariables, render, hargs]

lemma Expr.renderAll_bareAll (es : List Expr) :
    Expr.renderAll reserved (Expr.bareAll es) = Expr.renderAll reserved es := by
  match es with
  | [] => rfl
  | [e] => exact Expr.render_bare e
  | e :: e' :: rest =>
    have he := Expr.render_bare e
    have hrest := Expr.renderAll_bareAll (e' :: rest)
    simp only [bare, bareAll, mapVariablesOfAll] at he hrest
    simp only [bareAll, mapVariablesOfAll, renderAll, he, hrest]

end

end Trees

/-- **Readability.** Two expressions of operations have the same text only if they are the same but
for places and bindings. Whatever the names, the texts and the words reserved are, the parentheses
say which operator is applied to what. -/
theorem Expr.render_eq_iff (words : List String) {a b : Expr} (ha : a.Dyadic) (hb : b.Dyadic) :
    a.render (Reserved.builtin.withExtra words) = b.render (Reserved.builtin.withExtra words) ↔
      a.bare = b.bare := by
  have hreserved := Reserved.isComplete_withExtra words
  constructor
  · intro h
    have hprints := ha.prints hreserved
    rw [h] at hprints
    have hnothing : EndsOperations [] := by simp [EndsOperations]
    refine (ha.cancels hreserved b [] [] hb hnothing hnothing ?_).1
    rw [hprints.unique (hb.prints hreserved)]
  · intro h
    rw [← Expr.render_bare _ a, h, Expr.render_bare]

/-- The expression `(… - -5) NOT IN (*, '*')` with something at its beginning. -/
def Expr.guarded (e : Expr) : Expr :=
  (e.operation .subtract (.const (.integer (-5)))).operation .notIn
    (.list [.var ⟨["*"], none, none⟩, .const (.text "*")])

lemma Expr.Dyadic.guarded {e : Expr} (h : e.Dyadic) : e.guarded.Dyadic := by
  have hnumber : (Expr.const (.integer (-5))).Dyadic := .const rfl
  have htext : (Expr.const (.text "*")).Dyadic := .const rfl
  have hasterisk : (Expr.var ⟨["*"], none, none⟩).Dyadic := .var (by simp)
  have hdifference : (e.operation .subtract (.const (.integer (-5)))).Dyadic :=
    .operation rfl h hnumber
  exact .membership rfl hdifference (by simp [hasterisk, htext])

/-- A variable that is called `NULL` is not mistaken for the literal. -/
theorem Expr.render_eq_iff_guarded :
    (Expr.guarded (.var ⟨["NULL"], none, none⟩)).Dyadic ∧ (Expr.guarded (.const .null)).Dyadic ∧
      (Expr.guarded (.var ⟨["NULL"], none, none⟩)).render (Reserved.builtin.withExtra ["x"]) ≠
        (Expr.guarded (.const .null)).render (Reserved.builtin.withExtra ["x"]) := by
  have hname : (Expr.var ⟨["NULL"], none, none⟩).Dyadic := .var (by simp)
  have hnull : (Expr.const .null).Dyadic := .const rfl
  refine ⟨hname.guarded, hnull.guarded, fun h => ?_⟩
  have hbare := (Expr.render_eq_iff ["x"] hname.guarded hnull.guarded).mp h
  simp [bare, guarded, operation, mapVariables] at hbare

end SelectBinding
