import Demonstrator.Java.Util.ConfigUtils

namespace Servlet

open ConfigUtils

inductive Exit where
  | nullPointerException
  deriving DecidableEq, Repr

abbrev ParameterValues := Option (List String)

def getIntParameter : ParameterValues → Except Exit (Option Int32)
  | none => .error .nullPointerException
  | some [value] => .ok (parseInt value)
  | some _ => .ok none

def utilisationValue (parameters : ParameterValues) : Option Int32 :=
  match getIntParameter parameters with
  | .ok (some value) => if value < 0 ∨ 100 < value then none else some value
  | _ => none

theorem getIntParameter_repr (value : Int32) : getIntParameter (some [value.toInt.repr]) = .ok (some value) := by
  rw [getIntParameter, parseInt_repr]

end Servlet
