/-!
# Checks in order

A record is checked field by field, and the first check that fails is the one that is reported.

* `Check.require`: a condition, with what to report if it does not hold.
* `Check.all`: some checks in order.
-/

namespace PublicFunds

namespace Check

variable {ε : Type}

/-- A condition, with what to report if it does not hold. -/
def require (condition : Bool) (report : ε) : Except ε Unit :=
  if condition then .ok () else .error report

/-- Some checks in order: the first report, if there is one. -/
def all : List (Except ε Unit) → Except ε Unit
  | [] => .ok ()
  | check :: rest =>
    match check with
    | .error report => .error report
    | .ok () => all rest

@[simp] theorem require_eq_ok {condition : Bool} {report : ε} :
    require condition report = .ok () ↔ condition = true := by
  cases condition <;> simp [require]

/-- A check alone. -/
theorem all_singleton (check : Except ε Unit) : all [check] = check := by
  cases check <;> rfl

/-- Checks that pass leave it to those after them. -/
theorem all_append {first : List (Except ε Unit)} (passed : ∀ check ∈ first, check = .ok ())
    (second : List (Except ε Unit)) : all (first ++ second) = all second := by
  induction first with
  | nil => rfl
  | cons check rest ih =>
    rw [List.cons_append, passed check (List.mem_cons_self ..)]
    exact ih fun check' h => passed check' (List.mem_cons_of_mem _ h)

/-- Checks pass together exactly if each of them passes. -/
theorem all_eq_ok_iff {checks : List (Except ε Unit)} :
    all checks = .ok () ↔ ∀ check ∈ checks, check = .ok () := by
  induction checks with
  | nil => simp [all]
  | cons check rest ih =>
    cases check with
    | error report => simp [all]
    | ok u => simp [all, ih]

/-- Where all checks but the last are known to pass, the last is the one that counts. -/
theorem all_eq_getLast {checks others : List (Except ε Unit)} (passed : all others = .ok ())
    (same : checks.dropLast = others.dropLast) (nonempty : checks ≠ []) :
    all checks = checks.getLast nonempty := by
  have before : ∀ check ∈ checks.dropLast, check = .ok () := by
    rw [same]
    exact fun check h => all_eq_ok_iff.1 passed check (List.dropLast_subset _ h)
  calc all checks = all (checks.dropLast ++ [checks.getLast nonempty]) := by
        rw [List.dropLast_concat_getLast]
    _ = all [checks.getLast nonempty] := all_append before _
    _ = checks.getLast nonempty := all_singleton _

end Check

end PublicFunds
