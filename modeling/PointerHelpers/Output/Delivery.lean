import PointerHelpers.Template.Rendering

namespace PointerHelpers.Output

open Template

inductive DeliveryError (ε : Type) where
  | rendering (fault : RenderFault)
  | output (error : ε)
  deriving DecidableEq

def DeliveryError.message {ε : Type} (describe : ε → String) : DeliveryError ε → String
  | .rendering fault => fault.message
  | .output error => "failed to write output: " ++ describe error

end PointerHelpers.Output
