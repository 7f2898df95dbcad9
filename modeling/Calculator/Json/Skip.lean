import Calculator.Json.Scalar

/-!
# Skipping JSON containers

Passing over a container without keeping anything of it. All that is remembered on the way is
which containers are open, innermost first, so nesting may be as deep as the text is long.
-/

namespace Calculator.Json

/-- A kind of container. -/
inductive Container
  | array
  | object
  deriving DecidableEq, Repr

/-- The symbol that closes a container. -/
def Container.closer : Container → Char
  | .array => ']'
  | .object => '\x7d'

/-- The container that a symbol opens. -/
def Container.ofOpener? (c : Char) : Option Container :=
  if c = '[' then some .array else if c = '\x7b' then some .object else none

/-- Go to the value of the next item or member. -/
def toItem? : Container → (cs : List Char) → Option (List Char)
  | .array, cs => some cs
  | .object, cs => (readName? cs).map Progress.rest

theorem length_le_of_toItem? {container : Container} {cs rest : List Char}
    (h : toItem? container cs = some rest) : rest.length ≤ cs.length := by
  cases container with
  | array => cases h; exact Nat.le_refl _
  | object =>
    obtain ⟨p, -, rfl⟩ := Option.map_eq_some_iff.1 h
    exact Nat.le_of_lt p.shorter

/-- Pass over a value, if one is `due`, and over what is left of the open containers. -/
def skipOn? (due : Bool) (outer : List Container) (cs : List Char) : Option (List Char) :=
  match due, outer with
  | false, [] => some cs
  | false, container :: outer =>
    match hs : skipBlanks cs with
    | ',' :: rest =>
      match hi : toItem? container rest with
      | some item =>
        have := length_lt_of_skipBlanks hs
        have := length_le_of_toItem? hi
        skipOn? true (container :: outer) item
      | none => none
    | c :: rest =>
      if c = container.closer then
        have := length_lt_of_skipBlanks hs
        skipOn? false outer rest
      else none
    | [] => none
  | true, outer =>
    match hs : skipBlanks cs with
    | [] => none
    | c :: rest =>
      have := length_lt_of_skipBlanks hs
      match Container.ofOpener? c with
      | some container =>
        match he : skipBlanks rest with
        | d :: after =>
          if d = container.closer then
            have := length_lt_of_skipBlanks he
            skipOn? false outer after
          else
            match hi : toItem? container rest with
            | some item =>
              have := length_le_of_toItem? hi
              skipOn? true (container :: outer) item
            | none => none
        | [] => none
      | none =>
        match readScalar? (skipBlanks cs) with
        | some scalar =>
          have := scalar.shorter
          have := length_skipBlanks_le cs
          skipOn? false outer scalar.rest
        | none => none
termination_by cs.length
decreasing_by all_goals omega

theorem length_le_of_skipOn? {due : Bool} {outer : List Container} {cs rest : List Char}
    (h : skipOn? due outer cs = some rest) :
    rest.length ≤ cs.length ∧ (due = true → rest.length < cs.length) := by
  fun_induction skipOn? due outer cs <;> simp_all <;> omega

/-- Pass over a value without keeping it. -/
def skip? (cs : List Char) : Option (Progress Char Json cs.length) :=
  match h : skipOn? true [] cs with
  | some rest => some ⟨.unkept, rest, (length_le_of_skipOn? h).2 rfl⟩
  | none => none

end Calculator.Json
