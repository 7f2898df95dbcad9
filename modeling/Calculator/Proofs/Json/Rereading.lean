import Calculator.Json.Printer
import Calculator.Proofs.Json.Reading

/-!
# Reading printed JSON

The reader takes a printed string back (`readString?_render`), and a printed value where it takes
back the parts of it.

**Statements.** `ReadsBack allowance j kept` says that a reader with the allowance reads the text
of `j` as the value `kept`, whatever comes after it; the two differ where `j` nests deeper than
allowed. `PassesOver j` says that the reader gets over the text of `j` without keeping anything.
Both speak of a text up to the blanks before it, since the printer puts values on new lines.
-/

namespace Calculator.Json

open Progress (Gives)

/-! ## Strings -/

/-- A character is escaped by a letter or by its number, or it stands for itself. -/
theorem escapeChar_cases (c : Char) :
    (∃ e, escapeChar c = ['\\', e] ∧ escaped? e = some c) ∨
      (c.toNat < 0x20 ∧ escapeChar c =
        ['\\', 'u', '0', '0', hexDigit (c.toNat / 16), hexDigit c.toNat]) ∨
      (c ≠ '"' ∧ c ≠ '\\' ∧ ¬ c.toNat < 0x20 ∧ escapeChar c = [c]) := by
  by_cases hletter : c ∈ ['"', '\\', '\x08', '\x0c', '\n', '\r', '\t']
  · left
    simp only [List.mem_cons, List.not_mem_nil, or_false] at hletter
    rcases hletter with rfl | rfl | rfl | rfl | rfl | rfl | rfl
    all_goals exact ⟨_, rfl, rfl⟩
  · right
    simp only [List.mem_cons, List.not_mem_nil, or_false, not_or] at hletter
    obtain ⟨hquote, hslash, hb, hf, hn, hr, ht⟩ := hletter
    unfold escapeChar
    rw [if_neg hquote, if_neg hslash, if_neg hb, if_neg hf, if_neg hn, if_neg hr, if_neg ht]
    by_cases hcontrol : c.toNat < 0x20
    · exact .inl ⟨hcontrol, if_pos hcontrol⟩
    · exact .inr ⟨hquote, hslash, hcontrol, if_neg hcontrol⟩

theorem readPieces?_letter {e c : Char} (h : escaped? e = some c) (rest : List Char) :
    readPieces? ('\\' :: e :: rest) =
      (readPieces? rest).map fun (pieces, after) => (.char c :: pieces, after) := by
  have hu : e ≠ 'u' := by
    rintro rfl
    cases h
  rw [readPieces?, h]
  · cases readPieces? rest <;> rfl
  · exact fun _ _ _ _ _ h _ => hu h

theorem readPieces?_unit {a b c d : Char} {n : Nat} (h : hexUnit? a b c d = some n)
    (rest : List Char) :
    readPieces? ('\\' :: 'u' :: a :: b :: c :: d :: rest) =
      (readPieces? rest).map fun (pieces, after) => (.unit n :: pieces, after) := by
  rw [readPieces?, h]
  cases readPieces? rest <;> rfl

theorem readPieces?_plain {c : Char} (hquote : c ≠ '"') (hslash : c ≠ '\\')
    (hcontrol : ¬ c.toNat < 0x20) (rest : List Char) :
    readPieces? (c :: rest) =
      (readPieces? rest).map fun (pieces, after) => (.char c :: pieces, after) := by
  rw [readPieces?]
  · rw [if_neg (by simp [hslash, hcontrol])]
    cases readPieces? rest <;> rfl
  · exact hquote
  · exact fun _ _ _ _ _ h _ => hslash h
  · exact fun _ _ h _ => hslash h

theorem hexUnit?_control :
    ∀ n < 0x20, hexUnit? '0' '0' (hexDigit (n / 16)) (hexDigit n) = some n := by decide

/-- A unit that is no surrogate stands for itself. -/
theorem joinPieces?_unit {n : Nat} (h : n < 0xd800) (pieces : List Piece) :
    joinPieces? (.unit n :: pieces) = (joinPieces? pieces).map (Char.ofNat n :: ·) := by
  have hhigh : isHighSurrogate n = false := by simp [isHighSurrogate]; omega
  have hlow : isLowSurrogate n = false := by simp [isLowSurrogate]; omega
  cases pieces with
  | nil => simp [joinPieces?, hhigh, hlow]
  | cons piece pieces => cases piece <;> simp [joinPieces?, hhigh, hlow]

/-- An escaped character is read as one piece, which stands for it. -/
theorem exists_piece (c : Char) :
    ∃ piece, (∀ rest, readPieces? (escapeChar c ++ rest) =
        (readPieces? rest).map fun (pieces, after) => (piece :: pieces, after)) ∧
      ∀ pieces, joinPieces? (piece :: pieces) = (joinPieces? pieces).map (c :: ·) := by
  rcases escapeChar_cases c with ⟨e, hesc, he⟩ | ⟨hcontrol, hesc⟩ | ⟨hquote, hslash, hplain, hesc⟩
  · rw [hesc]
    exact ⟨.char c, readPieces?_letter he, fun _ => rfl⟩
  · rw [hesc]
    refine ⟨.unit c.toNat, readPieces?_unit (hexUnit?_control _ hcontrol), fun pieces => ?_⟩
    rw [joinPieces?_unit (by omega), Char.ofNat_toNat]
  · rw [hesc]
    exact ⟨.char c, readPieces?_plain hquote hslash hplain, fun _ => rfl⟩

theorem exists_pieces (cs rest : List Char) :
    ∃ pieces, readPieces? (cs.flatMap escapeChar ++ '"' :: rest) = some (pieces, rest) ∧
      joinPieces? pieces = some cs := by
  induction cs with
  | nil => exact ⟨[], rfl, rfl⟩
  | cons c cs ih =>
    obtain ⟨pieces, hread, hjoin⟩ := ih
    obtain ⟨piece, hpiece, hstands⟩ := exists_piece c
    refine ⟨piece :: pieces, ?_, ?_⟩
    · rw [List.flatMap_cons, List.append_assoc, hpiece, hread]
      rfl
    · rw [hstands, hjoin]
      rfl

/-- **A printed string is taken back.** -/
theorem readString?_render (text : String) (rest : List Char) :
    Gives (readString? (text.toList.flatMap escapeChar ++ '"' :: rest)) (some text) rest := by
  obtain ⟨pieces, hread, hjoin⟩ := exists_pieces text.toList rest
  unfold readString?
  split
  · next pieces' after h =>
    rw [hread] at h
    cases h
    rw [hjoin, Option.map_some, String.ofList_toList]
    exact ⟨_, rfl⟩
  · next hnone =>
    rw [hread] at hnone
    cases hnone

theorem renderString_eq (text : String) (rest : List Char) :
    renderString text rest = '"' :: (text.toList.flatMap escapeChar ++ '"' :: rest) := rfl

theorem readScalar?_quote (cs : List Char) :
    readScalar? ('"' :: cs) =
      (readString? cs).map fun p => (p.map ofString?).relax (Nat.le_succ _) := rfl

theorem readScalar?_renderString (text : String) (rest : List Char) :
    Gives (readScalar? (renderString text rest)) (.string text) rest := by
  obtain ⟨_, hread⟩ := readString?_render text rest
  rw [renderString_eq, readScalar?_quote, hread]
  exact ⟨_, rfl⟩

/-! ## Blanks -/

theorem skipBlanks_of_isBlank {c : Char} (h : isBlank c = true) (cs : List Char) :
    skipBlanks (c :: cs) = skipBlanks cs :=
  List.dropWhile_cons_of_pos h

theorem skipBlanks_of_not_isBlank {c : Char} (h : ¬ isBlank c = true) (cs : List Char) :
    skipBlanks (c :: cs) = c :: cs :=
  List.dropWhile_cons_of_neg h

theorem skipBlanks_newLine (depth : Nat) (cs : List Char) :
    skipBlanks (newLine depth cs) = skipBlanks cs := by
  have hspaces (n : Nat) : skipBlanks (List.replicate n ' ' ++ cs) = skipBlanks cs := by
    induction n with
    | zero => rfl
    | succ n ih => rw [List.replicate_succ, List.cons_append, skipBlanks_of_isBlank (by decide), ih]
  rw [newLine, List.cons_append, skipBlanks_of_isBlank (by decide), hspaces]

theorem skipBlanks_renderString (text : String) (rest : List Char) :
    skipBlanks (renderString text rest) = renderString text rest :=
  skipBlanks_of_not_isBlank (by decide) _

theorem readName?_render {key : String} {cs rest : List Char}
    (h : skipBlanks cs = renderString key (':' :: rest)) :
    Gives (readName? cs) (some key) rest := by
  obtain ⟨_, hread⟩ := readString?_render key (':' :: rest)
  have hcolon : afterColon? (':' :: rest) = some rest := rfl
  rw [renderString_eq] at h
  unfold readName?
  split
  · next quoted hq =>
    rw [h] at hq
    cases hq
    simp only [hread, Option.bind_eq_bind, Option.bind_some]
    split
    · next hnone =>
      rw [hcolon] at hnone
      cases hnone
    · next rest' hrest =>
      rw [hcolon] at hrest
      cases hrest
      exact ⟨_, rfl⟩
  · next hne => exact absurd h (hne _)

/-! ## Steps of passing over a value

In each of them only one branch of the reader agrees with the text. -/

theorem skipOn?_scalar {c : Char} {cs after rest : List Char} {value : Json}
    (hs : skipBlanks cs = c :: after) (hc : Container.ofOpener? c = none)
    (hscalar : Gives (readScalar? (skipBlanks cs)) value rest) (outer : List Container) :
    skipOn? true outer cs = skipOn? false outer rest := by
  obtain ⟨_, hscalar⟩ := hscalar
  rw [skipOn?]
  split <;> grind

theorem toItem?_object {cs item : List Char} {name : Option String}
    (h : Gives (readName? cs) name item) : toItem? .object cs = some item := by
  obtain ⟨_, h⟩ := h
  rw [toItem?, h]
  rfl

theorem skipOn?_object {c : Char} {cs after inside item : List Char} {name : Option String}
    (hs : skipBlanks cs = '\x7b' :: after) (hinside : skipBlanks after = c :: inside)
    (hc : c ≠ Container.object.closer) (hname : Gives (readName? after) name item)
    (outer : List Container) :
    skipOn? true outer cs = skipOn? true (.object :: outer) item := by
  have hitem := toItem?_object hname
  have hopener : Container.ofOpener? '\x7b' = some .object := rfl
  rw [skipOn?]
  split <;> grind

theorem skipOn?_comma {cs after item : List Char} {name : Option String}
    (hs : skipBlanks cs = ',' :: after) (hname : Gives (readName? after) name item)
    (outer : List Container) :
    skipOn? false (.object :: outer) cs = skipOn? true (.object :: outer) item := by
  have hitem := toItem?_object hname
  rw [skipOn?]
  split <;> grind

theorem skipOn?_close {cs after : List Char} (hs : skipBlanks cs = '\x7d' :: after)
    (outer : List Container) : skipOn? false (.object :: outer) cs = skipOn? false outer after := by
  rw [skipOn?]
  split <;> simp_all [Container.closer]

/-! ## Values -/

/-- The reader gets over the text of `j`, whatever is open around it. -/
def PassesOver (j : Json) : Prop :=
  ∀ depth rest outer cs, skipBlanks cs = skipBlanks (renderOnto depth rest j) →
    skipOn? true outer cs = skipOn? false outer rest

/-- A reader with the allowance takes the text of `j` as `kept`. -/
def ReadsBack (allowance : Nat) (j kept : Json) : Prop :=
  ∀ depth rest cs, skipBlanks cs = skipBlanks (renderOnto depth rest j) →
    Gives (readValue? allowance cs) kept rest

/-- Each of the members is taken back under its own name. -/
inductive MembersReadBack (allowance : Nat) : (members kept : List (String × Json)) → Prop
  | nil : MembersReadBack allowance [] []
  | cons (key : String) {value keptValue : Json} {members kept : List (String × Json)}
      (hvalue : ReadsBack allowance value keptValue) (h : MembersReadBack allowance members kept) :
      MembersReadBack allowance ((key, value) :: members) ((key, keptValue) :: kept)

/-- The text of a member that is so many containers deep, and the text after it. -/
def memberText (depth : Nat) (key : String) (value : Json) (rest : List Char) : List Char :=
  renderString key (':' :: ' ' :: renderOnto (depth + 1) rest value)

theorem skipBlanks_renderObject (depth : Nat) (rest : List Char) (key : String) (value : Json)
    (members : List (String × Json)) :
    skipBlanks (renderOnto depth rest (.object ((key, value) :: members))) =
      '\x7b' :: newLine (depth + 1)
        (memberText depth key value (renderMembers depth ('\x7d' :: rest) members)) := by
  rw [renderOnto]
  exact skipBlanks_of_not_isBlank (by decide) _

theorem skipBlanks_renderMembers_nil (depth : Nat) (rest : List Char) :
    skipBlanks (renderMembers depth ('\x7d' :: rest) []) = '\x7d' :: rest := by
  rw [renderMembers, skipBlanks_newLine]
  exact skipBlanks_of_not_isBlank (by decide) rest

theorem skipBlanks_renderMembers_cons (depth : Nat) (rest : List Char) (key : String)
    (value : Json) (members : List (String × Json)) :
    skipBlanks (renderMembers depth rest ((key, value) :: members)) = ',' :: newLine (depth + 1)
      (memberText depth key value (renderMembers depth rest members)) := by
  rw [renderMembers]
  exact skipBlanks_of_not_isBlank (by decide) _

section Member

variable (depth : Nat) (key : String) (value : Json) (rest : List Char)

/-- A member begins with the quote of its name. -/
theorem skipBlanks_newLine_memberText :
    skipBlanks (newLine (depth + 1) (memberText depth key value rest)) = '"' ::
      (key.toList.flatMap escapeChar ++
        '"' :: ':' :: ' ' :: renderOnto (depth + 1) rest value) := by
  rw [skipBlanks_newLine]
  exact skipBlanks_renderString key _

theorem readName?_memberText :
    Gives (readName? (newLine (depth + 1) (memberText depth key value rest))) (some key)
      (' ' :: renderOnto (depth + 1) rest value) :=
  readName?_render (skipBlanks_newLine_memberText depth key value rest)

end Member

/-! ### Passing over -/

theorem passesOver_string (text : String) : PassesOver (.string text) := by
  intro depth rest outer cs hcs
  rw [renderOnto, skipBlanks_renderString] at hcs
  have hscalar := readScalar?_renderString text rest
  rw [← hcs] at hscalar
  exact skipOn?_scalar hcs rfl hscalar outer

theorem PassesOver.afterName {j : Json} (h : PassesOver j) (depth : Nat) (rest : List Char)
    (outer : List Container) :
    skipOn? true outer (' ' :: renderOnto depth rest j) = skipOn? false outer rest :=
  h depth rest outer _ (skipBlanks_of_isBlank (by decide) _)

theorem skipOn?_renderMembers {members : List (String × Json)} (h : ∀ m ∈ members, PassesOver m.2)
    (depth : Nat) (rest : List Char) (outer : List Container) :
    skipOn? false (.object :: outer) (renderMembers depth ('\x7d' :: rest) members) =
      skipOn? false outer rest := by
  induction members with
  | nil => exact skipOn?_close (skipBlanks_renderMembers_nil depth rest) outer
  | cons member members ih =>
    obtain ⟨key, value⟩ := member
    obtain ⟨hvalue, hmembers⟩ := List.forall_mem_cons.1 h
    rw [skipOn?_comma (skipBlanks_renderMembers_cons ..) (readName?_memberText ..),
      hvalue.afterName, ih hmembers]

theorem passesOver_object {members : List (String × Json)} (hne : members ≠ [])
    (h : ∀ m ∈ members, PassesOver m.2) : PassesOver (.object members) := by
  intro depth rest outer cs hcs
  obtain ⟨⟨key, value⟩, members, rfl⟩ := List.exists_cons_of_ne_nil hne
  obtain ⟨hvalue, hmembers⟩ := List.forall_mem_cons.1 h
  rw [skipBlanks_renderObject] at hcs
  rw [skipOn?_object hcs (skipBlanks_newLine_memberText ..) (by decide) (readName?_memberText ..),
    hvalue.afterName, skipOn?_renderMembers hmembers]

/-! ### Reading back -/

theorem readsBack_string (allowance : Nat) (text : String) :
    ReadsBack allowance (.string text) (.string text) := by
  intro depth rest cs hcs
  rw [renderOnto, skipBlanks_renderString] at hcs
  have hscalar := readScalar?_renderString text rest
  rw [← hcs] at hscalar
  obtain ⟨_, hscalar⟩ := hscalar
  rw [renderString_eq] at hcs
  rw [readValue?_scalar (by simp [hcs]) (by simp [hcs]), hscalar]
  exact ⟨_, rfl⟩

/-- An object is not kept where none is allowed. -/
theorem readsBack_deep {members : List (String × Json)} (hne : members ≠ [])
    (h : PassesOver (.object members)) : ReadsBack 0 (.object members) .unkept := by
  intro depth rest cs hcs
  have hskip := h depth rest [] cs hcs
  have hend : skipOn? false [] rest = some rest := by rw [skipOn?]
  obtain ⟨⟨key, value⟩, members, rfl⟩ := List.exists_cons_of_ne_nil hne
  rw [skipBlanks_renderObject] at hcs
  rw [readValue?_deepObject hcs]
  unfold skip?
  split
  · next rest' hrest =>
    rw [hskip, hend] at hrest
    cases hrest
    exact ⟨_, rfl⟩
  · next hnone =>
    rw [hskip, hend] at hnone
    cases hnone

theorem ReadsBack.afterName {allowance : Nat} {j kept : Json} (h : ReadsBack allowance j kept)
    (depth : Nat) (rest : List Char) :
    Gives (readValue? allowance (' ' :: renderOnto depth rest j)) kept rest :=
  h depth rest _ (skipBlanks_of_isBlank (by decide) _)

theorem readMembers?_render {allowance : Nat} {members kept : List (String × Json)}
    (h : MembersReadBack allowance members kept) {value keptValue : Json}
    (hvalue : ReadsBack allowance value keptValue) (key : String) (depth : Nat)
    (rest : List Char) :
    Gives (readMembers? allowance (newLine (depth + 1)
        (memberText depth key value (renderMembers depth ('\x7d' :: rest) members))))
      (((key, keptValue) :: kept).map fun (name, value) => (some name, value)) rest := by
  have hname := readName?_memberText depth key value (renderMembers depth ('\x7d' :: rest) members)
  induction h generalizing key value keptValue with
  | nil =>
    exact readMembers?_close hname (hvalue.afterName ..) (skipBlanks_renderMembers_nil depth rest)
  | cons key' hvalue' h ih =>
    exact readMembers?_comma hname (hvalue.afterName ..) (skipBlanks_renderMembers_cons ..)
      (ih hvalue' key' (readName?_memberText ..))

/-- **An object is taken back where its members are**, with one container less allowed. -/
theorem readsBack_object {allowance : Nat} {members kept : List (String × Json)}
    (hne : members ≠ []) (h : MembersReadBack allowance members kept) :
    ReadsBack (allowance + 1) (.object members) (.object kept) := by
  intro depth rest cs hcs
  cases h with
  | nil => exact absurd rfl hne
  | cons key hvalue h =>
    rw [skipBlanks_renderObject] at hcs
    obtain ⟨_, hmembers⟩ := readMembers?_render h hvalue key depth rest
    rw [readValue?_object hcs, readObject?_members, hmembers, ← ofMembers_map]
    · exact ⟨_, rfl⟩
    · rw [skipBlanks_newLine_memberText]
      simp

/-- **A printed value is read as what a reader of JSON texts takes back.** -/
theorem read?_render {j kept : Json} (h : ReadsBack maxContainers j kept) :
    read? j.render = some kept := by
  obtain ⟨_, hread⟩ := h 0 [] (renderOnto 0 [] j) rfl
  rw [read?, render, String.toList_ofList, hread]
  rfl

end Calculator.Json
