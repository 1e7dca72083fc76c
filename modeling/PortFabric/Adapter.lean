import PortFabric.Configuration

/-!
# Hardware adapter

What an adapter may answer to an apply request and to a readback.
-/

set_option autoImplicit false

namespace PortFabric

inductive AdapterApplyStatus where
  | applied | failed | outcomeUnknown | unsupported
  deriving DecidableEq, Repr

structure AdapterApplyResult where
  status : AdapterApplyStatus := .unsupported
  detail : Text := []
  deriving DecidableEq

inductive AdapterReadbackStatus where
  | verified | mismatch | unknown | unsupported
  deriving DecidableEq, Repr

structure AdapterReadback where
  status : AdapterReadbackStatus := .unsupported
  detail : Text := []
  deriving DecidableEq

end PortFabric
