import Basketry.CallData

namespace Basketry.Morpho

/-- The migration of a legacy token into a new one. There is no way back. -/
structure WrapAdapter where
  wrapper : Address
  legacyToken : Address
  newToken : Address
deriving DecidableEq

namespace WrapAdapter

def signature : String := "depositFor(address,uint256)"

def ofValues (wrapper legacyToken newToken : Value) : Except Fault WrapAdapter :=
  return ⟨← Address.ofValue wrapper, ← Address.ofValue legacyToken, ← Address.ofValue newToken⟩

def checkPair (w : WrapAdapter) (underlying wrapped : Value) : Except Fault Unit := do
  if (← Address.ofValue underlying) ≠ w.legacyToken then
    .error (.revert "Must be a valid legacy Morpho token")
  if (← Address.ofValue wrapped) ≠ w.newToken then .error (.revert "Must be a valid new Morpho token")

/-- The call that hands in legacy tokens and sends new ones to `to`. -/
def wrapCall (w : WrapAdapter) (underlying wrapped amount receiver : Value) : Except Fault CallData := do
  w.checkPair underlying wrapped
  let receiver ← Address.ofValue receiver
  return ⟨w.wrapper, 0, ← CallData.call signature [.address, .uint 32] [receiver.toValue, amount]⟩

def unwrapCall : Except Fault CallData := .error (.revert "Morpho migration is not reversible")

end WrapAdapter

end Basketry.Morpho
