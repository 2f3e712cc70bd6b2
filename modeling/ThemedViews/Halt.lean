/-!
# Computations that may halt

A computation that is allowed a number of nested steps either ends with a result, fails, or is left unfinished when
the allowance is used up. The last two are kept apart: a failure is an answer, being unfinished is none.
-/

namespace ThemedViews

/-- Why there is no result. -/
inductive Halt (φ : Type) where
  | failed (failure : φ)
  | unfinished
  deriving Repr, DecidableEq

end ThemedViews
