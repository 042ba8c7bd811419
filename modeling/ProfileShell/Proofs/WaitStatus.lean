import ProfileShell.WaitStatus

/-!
# Exit codes of wait statuses

Every packed status gives an exit code that fits into an octet, and code zero stands for
success alone: the code of a signal lies above 128, and what is neither an exit nor a
signal counts as a failure.
-/

namespace ProfileShell

namespace WaitStatus

variable (status : WaitStatus)

theorem exitCode_of_code? {code : Nat} (exited : status.code? = some code) :
    status.exitCode = code := by
  simp [exitCode, exited]

theorem code?_le {code : Nat} (exited : status.code? = some code) : code ≤ 255 := by
  unfold code? at exited
  split at exited
  · cases exited
    rw [UInt32.toNat_and]
    exact Nat.and_le_right
  · cases exited

theorem signal?_bounds {signal : Nat} (killed : status.signal? = some signal) :
    0 < signal ∧ signal < 127 := by
  have small : status.ending ≤ 127 := by
    unfold ending
    rw [UInt32.toNat_and]
    exact Nat.and_le_right
  unfold signal? at killed
  split at killed
  · cases killed
  · cases killed
    next proper =>
      simp only [Bool.or_eq_true, decide_eq_true_eq, not_or] at proper
      omega

theorem exitCode_le : status.exitCode ≤ 255 := by
  cases exited : status.code? with
  | some code =>
      rw [status.exitCode_of_code? exited]
      exact status.code?_le exited
  | none =>
      cases killed : status.signal? with
      | some signal =>
          have bounds := status.signal?_bounds killed
          simp only [exitCode, exited, killed]
          omega
      | none => simp [exitCode, exited, killed]

/-- Only a process that ended by itself with code zero passes for one. -/
theorem exitCode_eq_zero_iff : status.exitCode = 0 ↔ status.isSuccess = true := by
  cases exited : status.code? with
  | some code => simp [exitCode, isSuccess, exited]
  | none =>
      cases killed : status.signal? with
      | some signal => simp [exitCode, isSuccess, exited, killed]
      | none => simp [exitCode, isSuccess, exited, killed]

end WaitStatus

end ProfileShell
