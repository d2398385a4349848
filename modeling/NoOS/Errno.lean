import Mathlib.Algebra.Group.Int.Defs

/-!
# Return codes

Functions of the library return an `int32_t` that is `SUCCESS`, `FAILURE` or a negated
error number. `IS_ERR_VALUE` tests the sign, which an unsigned copy of the code never has.
-/

namespace NoOS

def SUCCESS : Int := 0
def FAILURE : Int := -1
def ENOENT : Int := 2
def EIO : Int := 5
def EAGAIN : Int := 11
def ENOMEM : Int := 12
def EBUSY : Int := 16
def ENODEV : Int := 19
def EINVAL : Int := 22
def EMLINK : Int := 31
def EBADMSG : Int := 77
def ENOSYS : Int := 88
def EOPNOTSUPP : Int := 95
def ETIMEDOUT : Int := 116
def EISCONN : Int := 127
def ENOTCONN : Int := 128
def ENOTSUP : Int := 134
/-- Circular buffer overrun -/
def EOVERRUN : Int := 2001

/-- `IS_ERR_VALUE` on a signed variable. -/
def isErrValue (ret : Int) : Bool := decide (ret < 0)

/-- `IS_ERR_VALUE` on a `uint32_t` variable, which holds the code modulo `2 ^ 32`. -/
def isErrValueU32 (ret : Int) : Bool := isErrValue (ret % 2 ^ 32)

@[simp] theorem isErrValueU32_eq (ret : Int) : isErrValueU32 ret = false := by
  simp only [isErrValueU32, isErrValue, decide_eq_false_iff_not]
  lia

end NoOS
