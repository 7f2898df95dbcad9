import Calculator.Json.Reader

/-!
# Steps of the JSON reader

What each part of the reader does, by the symbol that its text goes on with, and from that how deep
a value can nest that was read: no more containers are kept inside one another than the reader is
allowed (`fitsIn_of_readValue?`). A container that is not kept is none any more.
-/

namespace Calculator

/-- The step reads `value` and leaves `rest`. -/
def Progress.Gives {σ α : Type} {n : Nat} (step : Option (Progress σ α n)) (value : α)
    (rest : List σ) : Prop := ∃ shorter, step = some ⟨value, rest, shorter⟩

namespace Json

open Progress (Gives)

variable {allowance : Nat} {cs rest : List Char}

/-! ## Values -/

theorem readValue?_deepArray (h : skipBlanks cs = '[' :: rest) : readValue? 0 cs = skip? cs := by
  rw [readValue?]
  split <;> simp_all

theorem readValue?_deepObject (h : skipBlanks cs = '\x7b' :: rest) :
    readValue? 0 cs = skip? cs := by
  rw [readValue?]
  split <;> simp_all

theorem readValue?_array (h : skipBlanks cs = '[' :: rest) :
    readValue? (allowance + 1) cs = (readArray? allowance rest).map fun p =>
      (p.map .array).relax (Nat.le_of_lt (length_lt_of_skipBlanks h)) := by
  rw [readValue?]
  split
  · next rest' h' =>
    rw [h] at h'
    cases h'
    rfl
  · next rest' h' =>
    rw [h] at h'
    simp at h'
  · next hne _ => exact absurd h (hne rest)

theorem readValue?_object (h : skipBlanks cs = '\x7b' :: rest) :
    readValue? (allowance + 1) cs = (readObject? allowance rest).map fun p =>
      (p.map ofMembers).relax (Nat.le_of_lt (length_lt_of_skipBlanks h)) := by
  rw [readValue?]
  split
  · next rest' h' =>
    rw [h] at h'
    simp at h'
  · next rest' h' =>
    rw [h] at h'
    cases h'
    rfl
  · next _ hne => exact absurd h (hne rest)

theorem readValue?_scalar (harray : ∀ rest, skipBlanks cs ≠ '[' :: rest)
    (hobject : ∀ rest, skipBlanks cs ≠ '\x7b' :: rest) :
    readValue? allowance cs =
      (readScalar? (skipBlanks cs)).map fun p => p.relax (length_skipBlanks_le cs) := by
  rw [readValue?]
  split <;> simp_all

/-! ## Members and items -/

theorem readObject?_close (h : skipBlanks cs = '\x7d' :: rest) :
    readObject? allowance cs = some ⟨[], rest, length_lt_of_skipBlanks h⟩ := by
  rw [readObject?]
  split
  · next rest' h' =>
    rw [h] at h'
    cases h'
    rfl
  · next hne => exact absurd h (hne rest)

theorem readObject?_members (h : ∀ rest, skipBlanks cs ≠ '\x7d' :: rest) :
    readObject? allowance cs = readMembers? allowance cs := by
  rw [readObject?]
  split <;> simp_all

theorem readArray?_close (h : skipBlanks cs = ']' :: rest) :
    readArray? allowance cs = some ⟨[], rest, length_lt_of_skipBlanks h⟩ := by
  rw [readArray?]
  split
  · next rest' h' =>
    rw [h] at h'
    cases h'
    rfl
  · next hne => exact absurd h (hne rest)

theorem readArray?_items (h : ∀ rest, skipBlanks cs ≠ ']' :: rest) :
    readArray? allowance cs = readItems? allowance cs := by
  rw [readArray?]
  split <;> simp_all

/-- The members that were read are one member, with its name and value, and what the members after
its comma are. -/
theorem value_of_readMembers? {p : Progress Char (List (Option String × Json)) cs.length}
    (h : readMembers? allowance cs = some p) :
    ∃ name value, readName? cs = some name ∧ readValue? allowance name.rest = some value ∧
      (p.value = [(name.value, value.value)] ∨
        ∃ rest members, skipBlanks value.rest = ',' :: rest ∧
          readMembers? allowance rest = some members ∧
          p.value = (name.value, value.value) :: members.value) := by
  rw [readMembers?] at h
  simp only [Option.bind_eq_bind, Option.bind_eq_some_iff] at h
  obtain ⟨name, hname, value, hvalue, h⟩ := h
  refine ⟨name, value, hname, hvalue, ?_⟩
  split at h
  · cases h
    exact .inl rfl
  · next rest hrest =>
    obtain ⟨members, hmembers, h⟩ := Option.bind_eq_some_iff.1 h
    cases h
    exact .inr ⟨rest, members, hrest, hmembers, rfl⟩
  · cases h

theorem readMembers?_close {name : Option String} {value : Json} {item after : List Char}
    (hname : Gives (readName? cs) name item)
    (hvalue : Gives (readValue? allowance item) value after)
    (hs : skipBlanks after = '\x7d' :: rest) :
    Gives (readMembers? allowance cs) [(name, value)] rest := by
  obtain ⟨_, hname⟩ := hname
  obtain ⟨_, hvalue⟩ := hvalue
  rw [readMembers?, hname]
  simp only [Option.bind_eq_bind, Option.bind_some, hvalue]
  split
  · next rest' h' =>
    rw [hs] at h'
    cases h'
    exact ⟨_, rfl⟩
  · next rest' h' =>
    rw [hs] at h'
    simp at h'
  · next hne _ => exact absurd hs (hne rest)

theorem readMembers?_comma {name : Option String} {value : Json} {item after next : List Char}
    {members : List (Option String × Json)} (hname : Gives (readName? cs) name item)
    (hvalue : Gives (readValue? allowance item) value after) (hs : skipBlanks after = ',' :: next)
    (hmembers : Gives (readMembers? allowance next) members rest) :
    Gives (readMembers? allowance cs) ((name, value) :: members) rest := by
  obtain ⟨_, hname⟩ := hname
  obtain ⟨_, hvalue⟩ := hvalue
  obtain ⟨_, hmembers⟩ := hmembers
  rw [readMembers?, hname]
  simp only [Option.bind_eq_bind, Option.bind_some, hvalue]
  split
  · next rest' h' =>
    rw [hs] at h'
    simp at h'
  · next rest' h' =>
    rw [hs] at h'
    cases h'
    rw [hmembers]
    exact ⟨_, rfl⟩
  · next _ hne => exact absurd hs (hne next)

theorem value_of_readItems? {p : Progress Char (List Json) cs.length}
    (h : readItems? allowance cs = some p) :
    ∃ item, readValue? allowance cs = some item ∧
      (p.value = [item.value] ∨
        ∃ rest items, skipBlanks item.rest = ',' :: rest ∧
          readItems? allowance rest = some items ∧ p.value = item.value :: items.value) := by
  rw [readItems?] at h
  obtain ⟨item, hitem, h⟩ := Option.bind_eq_some_iff.1 h
  refine ⟨item, hitem, ?_⟩
  split at h
  · cases h
    exact .inl rfl
  · next rest hrest =>
    obtain ⟨items, hitems, h⟩ := Option.bind_eq_some_iff.1 h
    cases h
    exact .inr ⟨rest, items, hrest, hitems, rfl⟩
  · cases h

/-- Members are kept together: all of them, if all their names are kept. -/
theorem mapM_name_eq_some_iff {members : List (Option String × Json)}
    {kept : List (String × Json)} :
    (members.mapM fun (name, value) => name.map (·, value)) = some kept ↔
      members = kept.map fun (name, value) => (some name, value) := by
  induction members generalizing kept with
  | nil => cases kept <;> simp
  | cons member members ih =>
    obtain ⟨name, value⟩ := member
    cases name with
    | none => cases kept <;> simp [List.mapM_cons]
    | some name =>
      cases kept with
      | nil => simp [List.mapM_cons, Option.bind_eq_some_iff]
      | cons first kept =>
        obtain ⟨name', value'⟩ := first
        rw [List.mapM_cons, List.map_cons, List.cons.injEq, ← ih]
        simp only [Option.map_some, Option.bind_eq_bind, Option.bind_some,
          Option.bind_eq_some_iff, Option.pure_def, Option.some.injEq, List.cons.injEq,
          Prod.mk.injEq, exists_eq_right_right]
        exact and_comm

theorem ofMembers_map (kept : List (String × Json)) :
    ofMembers (kept.map fun (name, value) => (some name, value)) = .object kept := by
  rw [ofMembers, mapM_name_eq_some_iff.2 rfl]

/-! ## The allowance -/

/-- The value has no more than so many containers inside one another. -/
def FitsIn : Nat → Json → Prop
  | 0, .array _ => False
  | 0, .object _ => False
  | inner + 1, .array items => ∀ item ∈ items, FitsIn inner item
  | inner + 1, .object members => ∀ member ∈ members, FitsIn inner member.2
  | _, _ => True

theorem FitsIn.array {items : List Json} (h : FitsIn allowance (.array items)) :
    ∃ inner, allowance = inner + 1 ∧ ∀ item ∈ items, FitsIn inner item := by
  cases allowance with
  | zero => exact h.elim
  | succ inner => exact ⟨inner, rfl, h⟩

theorem FitsIn.object {members : List (String × Json)} (h : FitsIn allowance (.object members)) :
    ∃ inner, allowance = inner + 1 ∧ ∀ member ∈ members, FitsIn inner member.2 := by
  cases allowance with
  | zero => exact h.elim
  | succ inner => exact ⟨inner, rfl, h⟩

theorem fitsIn_unkept (allowance : Nat) : FitsIn allowance .unkept := by
  cases allowance <;> trivial

theorem fitsIn_of_readScalar? {p : Progress Char Json cs.length} (h : readScalar? cs = some p)
    (allowance : Nat) : FitsIn allowance p.value := by
  unfold readScalar? at h
  split at h
  · cases h
    cases allowance <;> trivial
  · cases h
    cases allowance <;> trivial
  · cases h
    cases allowance <;> trivial
  · obtain ⟨q, -, rfl⟩ := Option.map_eq_some_iff.1 h
    change FitsIn allowance (ofString? q.value)
    cases allowance <;> cases q.value <;> trivial
  · split at h
    · cases h
      cases allowance <;> trivial
    · cases h

theorem fitsIn_of_skip? {p : Progress Char Json cs.length} (h : skip? cs = some p)
    (allowance : Nat) : FitsIn allowance p.value := by
  unfold skip? at h
  split at h
  · cases h
    exact fitsIn_unkept allowance
  · cases h

theorem fitsIn_ofMembers {members : List (Option String × Json)}
    (h : ∀ member ∈ members, FitsIn allowance member.2) :
    FitsIn (allowance + 1) (ofMembers members) := by
  unfold ofMembers
  split
  · next kept hkept =>
    obtain rfl := mapM_name_eq_some_iff.1 hkept
    exact fun member hmember => h _ (List.mem_map_of_mem hmember)
  · exact fitsIn_unkept _

/-- **A value that was read fits in the allowance of its reader.** -/
theorem fitsIn_of_readValue? {p : Progress Char Json cs.length}
    (h : readValue? allowance cs = some p) : FitsIn allowance p.value := by
  -- The same for all readers: each part of what they read fits in what they are allowed.
  refine readValue?.induct
    (fun allowance cs => ∀ p, readValue? allowance cs = some p → FitsIn allowance p.value)
    (fun allowance cs => ∀ p, readObject? allowance cs = some p →
      ∀ member ∈ p.value, FitsIn allowance member.2)
    (fun allowance cs => ∀ p, readMembers? allowance cs = some p →
      ∀ member ∈ p.value, FitsIn allowance member.2)
    (fun allowance cs => ∀ p, readArray? allowance cs = some p →
      ∀ item ∈ p.value, FitsIn allowance item)
    (fun allowance cs => ∀ p, readItems? allowance cs = some p →
      ∀ item ∈ p.value, FitsIn allowance item)
    ?deepArray ?array ?deepObject ?object ?scalar ?noMembers ?members ?member ?noItems ?items
    ?item allowance cs p h
  case deepArray =>
    intro cs rest hs p h
    rw [readValue?_deepArray hs] at h
    exact fitsIn_of_skip? h 0
  case deepObject =>
    intro cs rest hs p h
    rw [readValue?_deepObject hs] at h
    exact fitsIn_of_skip? h 0
  case array =>
    intro cs rest hs inner _ ih p h
    rw [readValue?_array hs] at h
    obtain ⟨q, hq, rfl⟩ := Option.map_eq_some_iff.1 h
    exact ih q hq
  case object =>
    intro cs rest hs inner _ ih p h
    rw [readValue?_object hs] at h
    obtain ⟨q, hq, rfl⟩ := Option.map_eq_some_iff.1 h
    exact fitsIn_ofMembers (ih q hq)
  case scalar =>
    intro allowance cs harray hobject p h
    rw [readValue?_scalar harray hobject] at h
    obtain ⟨q, hq, rfl⟩ := Option.map_eq_some_iff.1 h
    exact fitsIn_of_readScalar? hq allowance
  case noMembers =>
    intro allowance cs rest hs p h
    rw [readObject?_close hs] at h
    cases h
    exact List.forall_mem_nil _
  case noItems =>
    intro allowance cs rest hs p h
    rw [readArray?_close hs] at h
    cases h
    exact List.forall_mem_nil _
  case members =>
    intro allowance cs hs ih p h
    rw [readObject?_members hs] at h
    exact ih p h
  case items =>
    intro allowance cs hs ih p h
    rw [readArray?_items hs] at h
    exact ih p h
  case member =>
    intro allowance cs ihvalue ihmembers p h
    obtain ⟨name, value, -, hvalue, hp | ⟨rest, members, hs, hmembers, hp⟩⟩ :=
      value_of_readMembers? h
    · rw [hp]
      exact List.forall_mem_singleton.2 (ihvalue name value hvalue)
    · rw [hp]
      exact List.forall_mem_cons.2
        ⟨ihvalue name value hvalue, ihmembers name value rest hs members hmembers⟩
  case item =>
    intro allowance cs ihvalue ihitems p h
    obtain ⟨item, hitem, hp | ⟨rest, items, hs, hitems, hp⟩⟩ := value_of_readItems? h
    · rw [hp]
      exact List.forall_mem_singleton.2 (ihvalue item hitem)
    · rw [hp]
      exact List.forall_mem_cons.2 ⟨ihvalue item hitem, ihitems item rest hs items hitems⟩

/-- **A JSON text gives no value with more containers inside one another than are kept.** -/
theorem fitsIn_of_read? {text : String} {j : Json} (h : read? text = some j) :
    FitsIn maxContainers j := by
  obtain ⟨p, hp, h⟩ := Option.bind_eq_some_iff.1 h
  split at h
  · cases h
    exact fitsIn_of_readValue? hp
  · cases h

end Json

end Calculator
