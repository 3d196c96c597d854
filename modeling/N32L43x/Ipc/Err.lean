/-!
The error codes of the inter-process communication objects.
-/

namespace N32L43x.Ipc

/-- `rt_err_t` as the objects use it, in `thread->error` and as a return value: `RT_EOK`, one of the
negated codes, or another number that a caller gives. -/
inductive IpcErr
  | eok
  | error
  | etimeout
  | efull
  | eempty
  | ebusy
  | eintr
  | einval
  | other (code : Nat)
deriving DecidableEq

/-- The number, as `kerrno.h` has it without `RT_USING_LIBC`. -/
def IpcErr.value : IpcErr → Int
  | .eok => 0
  | .error => -1
  | .etimeout => -2
  | .efull => -3
  | .eempty => -4
  | .ebusy => -7
  | .eintr => -9
  | .einval => -10
  | .other code => code

/-- `RT_ERROR`, not negated. -/
def rtError : IpcErr := .other 1

end N32L43x.Ipc
