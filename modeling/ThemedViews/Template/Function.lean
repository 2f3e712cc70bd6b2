import ThemedViews.Template.Failure

/-!
# Functions

Functions give values from named arguments: a range of numbers, or an error of the template's own. Those that ask the
clock, for random numbers or for variables of the environment (`now`, `get_random` and `get_env`) are left out: they
fail as unknown names do.
-/

namespace ThemedViews.Template

abbrev Function := Scope → Except Reason Value

namespace Function

/-- A whole argument of `range`. Its name in the error is given apart. -/
def rangeBound (argument name : String) (arguments : Scope) : Except Reason (Option Nat) :=
  match arguments.lookup argument with
  | none => pure none
  | some (.number (.int value)) =>
      if 0 ≤ value then pure (some value.toNat) else throw (.rangeArgument argument name (.ofInt value))
  | some value => throw (.rangeArgument argument name value)

/-- The numbers from `start` up to `stop`, which is left out. -/
def range : Function := fun arguments => do
  let start ← rangeBound "start" "start" arguments
  let step ← rangeBound "step_by" "step" arguments
  let stop ← rangeBound "end" "end" arguments
  let start := start.getD 0
  let step := step.getD 1
  match stop with
  | none => throw .rangeWithoutEnd
  | some stop =>
      if stop < start then throw .rangeBackwards
      else
        let count := (stop - start + step - 1) / step
        return .list ((List.range count).map fun index => .ofInt ((start + index * step : Nat) : Int))

def fail : Function := fun arguments =>
  match arguments.lookup "message" with
  | some (.text message) => throw (.thrown message)
  | some value => throw (.throwMessage value)
  | none => throw .throwWithoutMessage

def named? : String → Option Function
  | "range" => some range
  | "throw" => some fail
  | _ => none

end Function

end ThemedViews.Template
