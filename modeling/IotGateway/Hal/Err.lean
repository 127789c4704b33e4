import Mathlib.Tactic

/-!
# HAL return codes

`gw_err_t` of `gw_hal.h` and the Go type `hal.Err` that wraps it.
-/

namespace Hal

def gwOk : ℤ := 0
def gwErrTimeout : ℤ := -1
def gwErrCrc : ℤ := -2
def gwErrIo : ℤ := -3
def gwErrInvalid : ℤ := -4
def gwErrNotInit : ℤ := -5
def gwErrBusy : ℤ := -6
def gwErrPerm : ℤ := -7
def gwErrInternal : ℤ := -99

/-- `hal.Err`: a negative return code. -/
structure Err where
  code : ℤ
deriving DecidableEq, Repr

/-- `Err.Error` -/
def Err.error (e : Err) : String :=
  if e.code = gwOk then "ok"
  else if e.code = gwErrTimeout then "hal: timeout"
  else if e.code = gwErrCrc then "hal: CRC mismatch"
  else if e.code = gwErrIo then "hal: I/O error"
  else if e.code = gwErrInvalid then "hal: invalid argument"
  else if e.code = gwErrNotInit then "hal: not initialized"
  else if e.code = gwErrBusy then "hal: busy"
  else if e.code = gwErrPerm then "hal: permission denied (check 'gpio' group / udev rule)"
  else if e.code = gwErrInternal then "hal: internal error"
  else "hal: unknown error " ++ toString e.code

/-- `wrap` -/
def wrap (rc : ℤ) : Except Err Unit := if rc = gwOk then .ok () else .error ⟨rc⟩

/-- A Go `int` passed as a C `int`. -/
def cInt (n : ℤ) : ℤ := n.bmod (2 ^ 32)

end Hal
