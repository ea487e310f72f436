import AdaptiveAutosar.Com.PayloadHelper

/-! # Function group states

`ara::exec::FunctionGroupState` with the name of its function group. A `std::string` is its bytes.
-/

namespace AdaptiveAutosar.Exec
open Foundations
set_option autoImplicit false

/-- A length field of 32 bits, and the string. -/
def injectString (serializedObject text : Bytes) : Bytes :=
  Com.injectInteger serializedObject (UInt32.ofNat text.length) ++ text

/-- The short name of `mFunctionGroup` and `mStateMetaModel`. -/
structure FunctionGroupState where
  functionGroup : Bytes
  stateMetaModel : Bytes
  deriving DecidableEq, Repr

namespace FunctionGroupState

def serialize (state : FunctionGroupState) (serializedObject : Bytes) : Bytes :=
  injectString (injectString serializedObject state.functionGroup) state.stateMetaModel

end FunctionGroupState
end AdaptiveAutosar.Exec
