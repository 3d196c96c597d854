/-!
The error codes of the kernel and the drivers.
-/

namespace N32L43x

/-- `rt_err_t`: what a driver or kernel function returns, `RT_EOK` or one of the negated
codes. -/
inductive RtErr where
  | eok
  | error
  | enosys
  | ebusy
  | eperm
  | einval
  | eio
deriving DecidableEq, Repr

end N32L43x
