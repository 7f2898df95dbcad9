import Calculator.Decimal.Reader
import Calculator.Json

/-!
# Loading JSON values

A value may be **loaded** whole before anything is made of it. Then all of it has to be kept, and
every number in it must be within the range of doubles.
-/

namespace Calculator.Json

/-- Whether the double nearest to a number is finite. -/
def inRange (text : String) : Bool := (Decimal.float? text).any Float.isFinite

mutual

/-- Whether a value can be loaded. -/
def isLoadable : Json → Bool
  | .unkept => false
  | .number text => inRange text
  | .array items => areLoadable items
  | .object members => haveLoadable members
  | _ => true

/-- Whether all items can be loaded. -/
def areLoadable : List Json → Bool
  | [] => true
  | item :: items => item.isLoadable && areLoadable items

/-- Whether the values of all members can be loaded. -/
def haveLoadable : List (String × Json) → Bool
  | [] => true
  | (_, value) :: members => value.isLoadable && haveLoadable members

end

end Calculator.Json
