import SelectBinding.Sql.Token

/-!
Why a statement could not be read.
-/

namespace SelectBinding.Sql

/-- Why a statement could not be read. -/
inductive Failure where
  /-- Something was wanted, and something else was found. -/
  | unexpected (wanted found : String) (place : Location)
  /-- Anything else, perhaps about no place in particular. -/
  | message (text : String) (place : Location)
  /-- The statement has too many levels. -/
  | tooDeep
deriving Repr, DecidableEq

end SelectBinding.Sql
