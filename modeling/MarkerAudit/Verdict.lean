import MarkerAudit.Mode

/-!
# Verdicts

How a run ends, and its exit status.
-/

namespace MarkerAudit

/-- The outcome of a completed run. -/
inductive Verdict
  | clean
  | findings
  | advisory
deriving DecidableEq, Repr

namespace Verdict

/-- The verdict on a run that reported something or nothing. -/
def decide (reported : Bool) : ReportFormat → Verdict
  | .plain => if reported then .findings else .clean
  | .warn => if reported then .advisory else .clean

/-- The exit status of a verdict. -/
def code : Verdict → Nat
  | .clean | .advisory => 0
  | .findings => 1

/-- The exit status of a run that could not be completed. -/
def fatalCode : Nat := 2

/-- The exit status of a run that was broken off where it stood, by an assertion that does not hold. -/
def crashCode : Nat := 101

end Verdict
end MarkerAudit
