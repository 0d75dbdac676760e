import SelectBinding.Proofs.Sql.Derivation

/-!
What is derived on some level of the grammar is derived on every level around it.
-/

namespace SelectBinding.Sql.Grammar

variable {reserved : Reserved} {inner inner' : Level}

lemma Listed.imp {α : Type} {one one' : List Token → α → Prop}
    (hone : ∀ ts a, one ts a → one' ts a) {ts : List Token} {as : List α} (h : Listed one ts as) :
    Listed one' ts as := by
  induction h with
  | last h => exact .last (hone _ _ h)
  | more h _ ih => exact .more (hone _ _ h) ih

lemma IsArgument.imp (hle : ∀ b n ts e, inner b n ts e → inner' b n ts e) {ts : List Token}
    {e : Expr} (h : IsArgument reserved inner ts e) : IsArgument reserved inner' ts e := by
  cases h with
  | term h hname => exact .term (hle _ _ _ _ h) hname
  | asterisk => exact .asterisk
  | qualified h => exact .qualified h

lemma IsPrimary.imp (hle : ∀ b n ts e, inner b n ts e → inner' b n ts e) {ts : List Token}
    {e : Expr} (h : IsPrimary reserved inner ts e) : IsPrimary reserved inner' ts e := by
  cases h with
  | null => exact .null
  | yes => exact .yes
  | no => exact .no
  | number h => exact .number h
  | text value => exact .text value
  | name h hform => exact .name h hform
  | emptyCall hname hform => exact .emptyCall hname hform
  | call hname hform h => exact .call hname hform (h.imp fun _ _ h => h.imp hle)
  | nested h => exact .nested (hle _ _ _ _ h)

lemma IsOperand.imp (hle : ∀ b n ts e, inner b n ts e → inner' b n ts e) {next : Nat}
    {ts : List Token} {e : Expr} (h : IsOperand reserved inner next ts e) :
    IsOperand reserved inner' next ts e := by
  cases h with
  | primary h => exact .primary (h.imp hle)
  | plus h => exact .plus (hle _ _ _ _ h)
  | minus h => exact .minus (hle _ _ _ _ h)
  | not h => exact .not (hle _ _ _ _ h)

lemma Continues.imp (hle : ∀ b n ts e, inner b n ts e → inner' b n ts e) {bound follow next : Nat}
    {e e' : Expr} {ts : List Token} (h : Continues inner bound follow next e ts e') :
    Continues inner' bound follow next e ts e' := by
  induction h with
  | done h => exact .done h
  | isNull h _ ih => exact .isNull h ih
  | isNotNull h _ ih => exact .isNotNull h ih
  | operation hop h hright _ ih => exact .operation hop h (hle _ _ _ _ hright) ih
  | membership hop h hitems _ ih => exact .membership hop h (hitems.imp fun _ _ h => hle _ _ _ _ h) ih

lemma Above.imp (hle : ∀ b n ts e, inner b n ts e → inner' b n ts e) {bound follow : Nat}
    {ts : List Token} {e : Expr} (h : Above reserved inner bound follow ts e) :
    Above reserved inner' bound follow ts e := by
  cases h with
  | mk h hmore => exact .mk (h.imp hle) (hmore.imp hle)

/-- What is derived on a level is derived on the level around it. -/
lemma derives_succ (reserved : Reserved) (depth : Nat) :
    ∀ b n ts e, derives reserved depth b n ts e → derives reserved (depth + 1) b n ts e := by
  induction depth with
  | zero => exact fun _ _ _ _ h => h.elim
  | succ depth ih => exact fun _ _ _ _ h => Above.imp ih h

lemma derives_mono {depth depth' : Nat} (hle : depth ≤ depth') :
    ∀ b n ts e, derives reserved depth b n ts e → derives reserved depth' b n ts e := by
  induction hle with
  | refl => exact fun _ _ _ _ h => h
  | step _ ih => exact fun _ _ _ _ h => derives_succ _ _ _ _ _ _ (ih _ _ _ _ h)

end SelectBinding.Sql.Grammar
