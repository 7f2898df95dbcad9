import Calculator.Json
import Calculator.Progress

/-!
# JSON scalars

The values without items: the three words, numbers and strings. Blanks may stand between the
symbols of the grammar and nowhere else.

A string is read in two steps: first its characters and the UTF-16 units that it gives by number
(`readPieces?`), then surrogate units are paired (`joinPieces?`). A string with a surrogate that
has no partner is well formed and not kept.
-/

namespace Calculator.Json

/-- A blank between symbols. -/
def isBlank (c : Char) : Bool := c = ' ' || c = '\t' || c = '\n' || c = '\r'

/-- Text without the blanks before it. -/
def skipBlanks (cs : List Char) : List Char := cs.dropWhile isBlank

theorem length_skipBlanks_le (cs : List Char) : (skipBlanks cs).length ≤ cs.length :=
  (List.dropWhile_suffix isBlank).length_le

theorem length_lt_of_skipBlanks {cs rest : List Char} {c : Char} (h : skipBlanks cs = c :: rest) :
    rest.length < cs.length := by
  have := length_skipBlanks_le cs
  rw [h, List.length_cons] at this
  omega

/-! ## Strings -/

/-- A part of a string: a character, or a UTF-16 unit given by number. -/
inductive Piece
  | char (c : Char)
  | unit (n : Nat)
  deriving DecidableEq, Repr

/-- The value of a hexadecimal digit. -/
def hexValue? (c : Char) : Option Nat :=
  if '0' ≤ c && c ≤ '9' then some (c.toNat - '0'.toNat)
  else if 'a' ≤ c && c ≤ 'f' then some (c.toNat - 'a'.toNat + 10)
  else if 'A' ≤ c && c ≤ 'F' then some (c.toNat - 'A'.toNat + 10)
  else none

/-- The number that four hexadecimal digits stand for. -/
def hexUnit? (a b c d : Char) : Option Nat := do
  let w ← hexValue? a
  let x ← hexValue? b
  let y ← hexValue? c
  let z ← hexValue? d
  return ((w * 16 + x) * 16 + y) * 16 + z

/-- The character that stands for itself or another after a backslash. -/
def escaped? : Char → Option Char
  | '"' => some '"'
  | '\\' => some '\\'
  | '/' => some '/'
  | 'b' => some '\x08'
  | 'f' => some '\x0c'
  | 'n' => some '\n'
  | 'r' => some '\r'
  | 't' => some '\t'
  | _ => none

/-- The pieces of a string after its opening quote, and the text after its closing quote. -/
def readPieces? : List Char → Option (List Piece × List Char)
  | [] => none
  | '"' :: rest => some ([], rest)
  | '\\' :: 'u' :: a :: b :: c :: d :: rest => do
    let n ← hexUnit? a b c d
    let (pieces, after) ← readPieces? rest
    return (.unit n :: pieces, after)
  | '\\' :: e :: rest => do
    let c ← escaped? e
    let (pieces, after) ← readPieces? rest
    return (.char c :: pieces, after)
  | c :: rest =>
    if c = '\\' || c.toNat < 0x20 then none
    else do
      let (pieces, after) ← readPieces? rest
      return (.char c :: pieces, after)

/-- A unit that begins a pair. -/
def isHighSurrogate (n : Nat) : Bool := 0xd800 ≤ n && n < 0xdc00

/-- A unit that ends a pair. -/
def isLowSurrogate (n : Nat) : Bool := 0xdc00 ≤ n && n < 0xe000

/-- The character that a pair of surrogates stands for. -/
def pairChar (high low : Nat) : Char :=
  Char.ofNat (0x10000 + (high - 0xd800) * 0x400 + (low - 0xdc00))

/-- The characters that pieces stand for. -/
def joinPieces? : List Piece → Option (List Char)
  | [] => some []
  | .char c :: pieces => (joinPieces? pieces).map (c :: ·)
  | .unit high :: .unit low :: pieces =>
    if isHighSurrogate high && isLowSurrogate low then
      (joinPieces? pieces).map (pairChar high low :: ·)
    else if isHighSurrogate high || isLowSurrogate high then none
    else (joinPieces? (.unit low :: pieces)).map (Char.ofNat high :: ·)
  | .unit n :: pieces =>
    if isHighSurrogate n || isLowSurrogate n then none
    else (joinPieces? pieces).map (Char.ofNat n :: ·)

theorem length_lt_of_readPieces? {cs : List Char} {pieces : List Piece} {after : List Char}
    (h : readPieces? cs = some (pieces, after)) : after.length < cs.length := by
  fun_induction readPieces? cs generalizing pieces after with
  | case1 => simp at h
  | case2 rest => simp_all
  | case3 a b c d rest ih =>
    simp only [Option.bind_eq_bind, Option.bind_eq_some_iff] at h
    obtain ⟨n, -, ⟨ps, aft⟩, hr, h⟩ := h
    cases h
    have := ih hr
    simp only [List.length_cons]
    omega
  | case4 e rest _ ih =>
    simp only [Option.bind_eq_bind, Option.bind_eq_some_iff] at h
    obtain ⟨n, -, ⟨ps, aft⟩, hr, h⟩ := h
    cases h
    have := ih hr
    simp only [List.length_cons]
    omega
  | case5 => simp at h
  | case6 c rest _ _ _ _ ih =>
    simp only [Option.bind_eq_bind, Option.bind_eq_some_iff] at h
    obtain ⟨⟨ps, aft⟩, hr, h⟩ := h
    cases h
    have := ih hr
    simp only [List.length_cons]
    omega

/-- The text of a string after its opening quote, or `none` in its place if it is not kept. -/
def readString? (cs : List Char) : Option (Progress Char (Option String) cs.length) :=
  match h : readPieces? cs with
  | some (pieces, after) =>
    some ⟨(joinPieces? pieces).map .ofList, after, length_lt_of_readPieces? h⟩
  | none => none

/-! ## Numbers -/

/-- One digit or more, and the text after them. -/
def readDigits? (cs : List Char) : Option (List Char × List Char) :=
  match cs.takeWhile Char.isDigit with
  | [] => none
  | ds => some (ds, cs.dropWhile Char.isDigit)

/-- A whole number without superfluous zeros. -/
def readWhole? (cs : List Char) : Option (List Char × List Char) :=
  match cs with
  | '0' :: rest => some (['0'], rest)
  | cs => readDigits? cs

/-- The digits after a point, if there is a point. -/
def readFraction? (cs : List Char) : Option (List Char × List Char) :=
  match cs with
  | '.' :: rest => (readDigits? rest).map fun (ds, after) => ('.' :: ds, after)
  | cs => some ([], cs)

/-- A power of ten, if there is one. -/
def readPower? (cs : List Char) : Option (List Char × List Char) :=
  match cs with
  | [] => some ([], [])
  | e :: rest =>
    if e = 'e' || e = 'E' then
      match rest with
      | '+' :: digits => (readDigits? digits).map fun (ds, after) => (e :: '+' :: ds, after)
      | '-' :: digits => (readDigits? digits).map fun (ds, after) => (e :: '-' :: ds, after)
      | digits => (readDigits? digits).map fun (ds, after) => (e :: ds, after)
    else some ([], e :: rest)

/-- A number without its sign. -/
def readMagnitude? (cs : List Char) : Option (List Char × List Char) := do
  let (whole, rest) ← readWhole? cs
  let (fraction, rest) ← readFraction? rest
  let (power, rest) ← readPower? rest
  return (whole ++ fraction ++ power, rest)

/-- The text of a number. -/
def readNumber? (cs : List Char) : Option (List Char × List Char) :=
  match cs with
  | '-' :: rest => (readMagnitude? rest).map fun (text, after) => ('-' :: text, after)
  | cs => readMagnitude? cs

/-! Reading a number loses nothing, and a number has at least one character. -/

theorem eq_append_of_readDigits? {cs ds after : List Char}
    (h : readDigits? cs = some (ds, after)) : cs = ds ++ after ∧ ds ≠ [] := by
  unfold readDigits? at h
  split at h
  · simp at h
  · next hne =>
    cases h
    exact ⟨List.takeWhile_append_dropWhile.symm, hne⟩

theorem eq_append_of_readWhole? {cs ds after : List Char}
    (h : readWhole? cs = some (ds, after)) : cs = ds ++ after ∧ ds ≠ [] := by
  unfold readWhole? at h
  split at h
  · cases h
    simp
  · exact eq_append_of_readDigits? h

theorem eq_append_of_readFraction? {cs ds after : List Char}
    (h : readFraction? cs = some (ds, after)) : cs = ds ++ after := by
  unfold readFraction? at h
  split at h
  · obtain ⟨⟨ds, after⟩, hd, h⟩ := Option.map_eq_some_iff.1 h
    cases h
    simp [(eq_append_of_readDigits? hd).1]
  · cases h
    rfl

theorem eq_append_of_readPower? {cs ds after : List Char}
    (h : readPower? cs = some (ds, after)) : cs = ds ++ after := by
  unfold readPower? at h
  split at h
  · cases h
    rfl
  · split at h
    · split at h <;>
      · obtain ⟨⟨ds, after⟩, hd, h⟩ := Option.map_eq_some_iff.1 h
        cases h
        simp [(eq_append_of_readDigits? hd).1]
    · cases h
      rfl

theorem eq_append_of_readMagnitude? {cs text after : List Char}
    (h : readMagnitude? cs = some (text, after)) : cs = text ++ after ∧ text ≠ [] := by
  simp only [readMagnitude?, Option.bind_eq_bind, Option.bind_eq_some_iff] at h
  obtain ⟨⟨whole, r⟩, hw, ⟨fraction, r'⟩, hf, ⟨power, r''⟩, hp, h⟩ := h
  cases h
  obtain ⟨h₁, hne⟩ := eq_append_of_readWhole? hw
  have h₂ := eq_append_of_readFraction? hf
  have h₃ := eq_append_of_readPower? hp
  simp only at h₁ h₂ h₃ hne ⊢
  subst h₁ h₂ h₃
  simp [hne]

theorem eq_append_of_readNumber? {cs text after : List Char}
    (h : readNumber? cs = some (text, after)) : cs = text ++ after ∧ text ≠ [] := by
  unfold readNumber? at h
  split at h
  · obtain ⟨⟨text, after⟩, hm, h⟩ := Option.map_eq_some_iff.1 h
    cases h
    simp [(eq_append_of_readMagnitude? hm).1]
  · exact eq_append_of_readMagnitude? h

theorem length_lt_of_readNumber? {cs text after : List Char}
    (h : readNumber? cs = some (text, after)) : after.length < cs.length := by
  obtain ⟨rfl, hne⟩ := eq_append_of_readNumber? h
  have := List.length_pos_iff.2 hne
  simp only [List.length_append]
  omega

/-! ## Words and scalars -/

/-- A string as a value. -/
def ofString? : Option String → Json
  | some text => .string text
  | none => .unkept

/-- A scalar at the head of the text. -/
def readScalar? (cs : List Char) : Option (Progress Char Json cs.length) :=
  match cs with
  | 'n' :: 'u' :: 'l' :: 'l' :: rest => some ⟨.null, rest, by simp only [List.length_cons]; omega⟩
  | 't' :: 'r' :: 'u' :: 'e' :: rest =>
    some ⟨.bool true, rest, by simp only [List.length_cons]; omega⟩
  | 'f' :: 'a' :: 'l' :: 's' :: 'e' :: rest =>
    some ⟨.bool false, rest, by simp only [List.length_cons]; omega⟩
  | '"' :: rest => (readString? rest).map fun p => (p.map ofString?).relax (Nat.le_succ _)
  | cs =>
    match h : readNumber? cs with
    | some (text, rest) => some ⟨.number (.ofList text), rest, length_lt_of_readNumber? h⟩
    | none => none

/-! ## Names of members -/

/-- The text after a colon and the blanks before it. -/
def afterColon? (cs : List Char) : Option (List Char) :=
  match skipBlanks cs with
  | ':' :: rest => some rest
  | _ => none

theorem length_lt_of_afterColon? {cs rest : List Char} (h : afterColon? cs = some rest) :
    rest.length < cs.length := by
  unfold afterColon? at h
  split at h
  · next after heq =>
    cases h
    exact length_lt_of_skipBlanks heq
  · simp at h

/-- The name of a member and the colon after it. -/
def readName? (cs : List Char) : Option (Progress Char (Option String) cs.length) :=
  match hq : skipBlanks cs with
  | '"' :: quoted => do
    let name ← readString? quoted
    match hc : afterColon? name.rest with
    | none => none
    | some rest => some ⟨name.value, rest, Nat.lt_trans (length_lt_of_afterColon? hc)
        (Nat.lt_trans name.shorter (length_lt_of_skipBlanks hq))⟩
  | _ => none

end Calculator.Json
