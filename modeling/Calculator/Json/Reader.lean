import Calculator.Json.Skip

/-!
# Reading JSON

JSON text as a value. Blanks may stand between the symbols of the grammar and nowhere else, and
nothing may follow the value.

**Nesting.** A reader has an allowance of containers to keep inside one another; `Json.read?`
starts with `maxContainers`. Deeper containers must be well formed, too, and are not kept. An
object is not kept either where the name of a member is not.
-/

namespace Calculator.Json

/-- The greatest number of containers that are kept inside one another. -/
def maxContainers : Nat := 127

/-- The object of some members, if all their names are kept. -/
def ofMembers (members : List (Option String × Json)) : Json :=
  match members.mapM fun (name, value) => name.map (·, value) with
  | some members => .object members
  | none => .unkept

mutual

/-- A value of which so many containers are kept inside one another. -/
def readValue? (allowance : Nat) (cs : List Char) : Option (Progress Char Json cs.length) :=
  match hs : skipBlanks cs with
  | '[' :: rest =>
    match allowance with
    | 0 => skip? cs
    | inner + 1 =>
      have := length_lt_of_skipBlanks hs
      (readArray? inner rest).map fun p => (p.map .array).relax (Nat.le_of_lt this)
  | '\x7b' :: rest =>
    match allowance with
    | 0 => skip? cs
    | inner + 1 =>
      have := length_lt_of_skipBlanks hs
      (readObject? inner rest).map fun p => (p.map ofMembers).relax (Nat.le_of_lt this)
  | _ => (readScalar? (skipBlanks cs)).map fun p => p.relax (length_skipBlanks_le cs)
termination_by (cs.length, 3)
decreasing_by
  all_goals exact Prod.Lex.left _ _ this

/-- The items of an array after its opening bracket. -/
def readArray? (allowance : Nat) (cs : List Char) :
    Option (Progress Char (List Json) cs.length) :=
  match hs : skipBlanks cs with
  | ']' :: rest => some ⟨[], rest, length_lt_of_skipBlanks hs⟩
  | _ => readItems? allowance cs
termination_by (cs.length, 5)
decreasing_by exact Prod.Lex.right _ (by decide)

/-- One item or more, up to the closing bracket. -/
def readItems? (allowance : Nat) (cs : List Char) :
    Option (Progress Char (List Json) cs.length) := do
  let item ← readValue? allowance cs
  match hs : skipBlanks item.rest with
  | ']' :: rest => some ⟨[item.value], rest, Nat.lt_trans (length_lt_of_skipBlanks hs) item.shorter⟩
  | ',' :: rest =>
    have := Nat.lt_trans (length_lt_of_skipBlanks hs) item.shorter
    let items ← readItems? allowance rest
    return (items.map (item.value :: ·)).relax (Nat.le_of_lt this)
  | _ => none
termination_by (cs.length, 4)
decreasing_by
  · exact Prod.Lex.right _ (by decide)
  · exact Prod.Lex.left _ _ this

/-- The members of an object after its opening brace. -/
def readObject? (allowance : Nat) (cs : List Char) :
    Option (Progress Char (List (Option String × Json)) cs.length) :=
  match hs : skipBlanks cs with
  | '\x7d' :: rest => some ⟨[], rest, length_lt_of_skipBlanks hs⟩
  | _ => readMembers? allowance cs
termination_by (cs.length, 5)
decreasing_by exact Prod.Lex.right _ (by decide)

/-- One member or more, up to the closing brace. -/
def readMembers? (allowance : Nat) (cs : List Char) :
    Option (Progress Char (List (Option String × Json)) cs.length) := do
  let name ← readName? cs
  let value ← readValue? allowance name.rest
  match hs : skipBlanks value.rest with
  | '\x7d' :: rest => some ⟨[(name.value, value.value)], rest,
      Nat.lt_trans (length_lt_of_skipBlanks hs) (Nat.lt_trans value.shorter name.shorter)⟩
  | ',' :: rest =>
    have hr : rest.length < cs.length :=
      Nat.lt_trans (length_lt_of_skipBlanks hs) (Nat.lt_trans value.shorter name.shorter)
    let members ← readMembers? allowance rest
    return (members.map ((name.value, value.value) :: ·)).relax (Nat.le_of_lt hr)
  | _ => none
termination_by (cs.length, 4)
decreasing_by
  · exact Prod.Lex.left _ _ name.shorter
  · exact Prod.Lex.left _ _ hr

end

/-- The value of a JSON text. -/
def read? (text : String) : Option Json := do
  let value ← readValue? maxContainers text.toList
  if (skipBlanks value.rest).isEmpty then some value.value else none

end Calculator.Json
