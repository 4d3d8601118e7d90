import Basketry.Fault
import Basketry.Text.Search

namespace Basketry

/-- The reason of a refusal. Other failures are none. -/
def Fault.refusal? : Fault → Option String
  | .revert reason => some reason
  | .outage o => if o.nature = .refusal then some o.message else none
  | _ => none

/-- A refusal passes if its reason holds the expected text; every other failure stays what it is. -/
def expectRefusal (expected : Option String) : Except Fault Unit → Except Fault Unit
  | .ok _ => .error (.noRevert expected)
  | .error fault =>
    match fault.refusal? with
    | none => .error fault
    | some actual =>
      match expected with
      | none => .ok ()
      | some reason =>
        if Text.occursIn reason.toList actual.toList then .ok ()
        else .error (.unexpectedReason reason actual)

end Basketry
