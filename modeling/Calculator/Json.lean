/-!
# JSON values

The values of JSON texts. Numbers keep their text and objects their members in order, repeated
names included, so that whoever reads a value decides what they mean.

Not every well-formed text is **kept**. A string may hold half of a surrogate pair, which no
text can hold, and containers may nest deeper than is of use. The grammar admits both, so a
reader passes them, but all it keeps of them is that they were there (`unkept`).
-/

namespace Calculator

/-- A JSON value. -/
inductive Json
  | null
  | bool (b : Bool)
  | number (text : String)
  | string (text : String)
  | array (items : List Json)
  | object (members : List (String × Json))
  /-- A well-formed value that is not kept. -/
  | unkept
  deriving Repr

namespace Json

/-- The values of all members with a name. -/
def named (name : String) : List (String × Json) → List Json
  | [] => []
  | (key, value) :: members =>
    if key = name then value :: named name members else named name members

end Json

end Calculator
