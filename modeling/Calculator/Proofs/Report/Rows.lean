import Calculator.Diagnostic
import Mathlib.Data.List.Basic
import Mathlib.Tactic.SplitIfs

/-!
# The rows of a report

A report is read in **rows**, the pieces between its line feeds. The typed text stands in it as it
is, two blanks before its first row and none before the others, and the caret comes under the last
of them (`Diagnostic.rows_renderAt`).

So the caret is below the row of a place in the text, in its column, almost never if the text has
several rows: the place must be in the first one, and the last one must look like the first one does
when it is indented (`Text.lastRow_indent_iff`).
-/

namespace Calculator

/-! ## Rows -/

namespace Text

variable {cs ds : List Char}

/-- The pieces of a text between its line feeds. -/
def rows (cs : List Char) : List (List Char) := cs.splitOn '\n'

def firstRow (cs : List Char) : List Char := (rows cs).headD []

def lastRow (cs : List Char) : List Char := (rows cs).getLastD []

theorem rows_append_cons (cs ds : List Char) : rows (cs ++ '\n' :: ds) = rows cs ++ rows ds :=
  List.splitOn_append_cons_self cs ds

theorem rows_of_not_mem (h : '\n' ∉ cs) : rows cs = [cs] := List.splitOn_eq_singleton h

theorem firstRow_of_not_mem (h : '\n' ∉ cs) : firstRow cs = cs := by
  simp [firstRow, rows_of_not_mem h]

theorem lastRow_of_not_mem (h : '\n' ∉ cs) : lastRow cs = cs := by
  simp [lastRow, rows_of_not_mem h]

theorem exists_rows_eq_append (cs : List Char) : ∃ init, rows cs = init ++ [lastRow cs] := by
  have hne : rows cs ≠ [] := List.splitOn_ne_nil '\n' cs
  refine ⟨(rows cs).dropLast, ?_⟩
  rw [lastRow, List.getLastD_eq_getLast?, List.getLast?_eq_some_getLast hne, Option.getD_some,
    List.dropLast_append_getLast]

theorem firstRow_append_cons (h : '\n' ∉ cs) (ds : List Char) :
    firstRow (cs ++ '\n' :: ds) = cs := by
  simp [firstRow, rows_append_cons, rows_of_not_mem h]

theorem lastRow_append_cons (cs ds : List Char) : lastRow (cs ++ '\n' :: ds) = lastRow ds := by
  obtain ⟨init, hinit⟩ := exists_rows_eq_append ds
  rw [lastRow, rows_append_cons, hinit]
  simp

/-- Line feeds take room. -/
theorem length_lastRow_lt (h : '\n' ∈ cs) : (lastRow cs).length < cs.length := by
  obtain ⟨ds, es, hsplit, hnot⟩ := List.eq_append_cons_of_mem (List.mem_reverse.2 h)
  obtain rfl : cs = es.reverse ++ '\n' :: ds.reverse := by
    rw [← List.reverse_reverse cs, hsplit]
    simp
  rw [lastRow_append_cons, lastRow_of_not_mem (by simpa using hnot)]
  simp
  omega

/-- The two blanks in front of what a report shows. -/
def indent : List Char := [' ', ' ']

/-- The row with a caret under some column of an indented row. -/
def caretRow (column : Nat) : List Char := indent ++ (List.replicate column ' ' ++ ['^'])

/-- At the end of `shown`, before the rows `foot`, an indented row has a caret under a column. -/
def HasCaret (shown foot : List (List Char)) (row : List Char) (column : Nat) : Prop :=
  ∃ above, shown = above ++ [indent ++ row, caretRow column] ++ foot

theorem caretRow_inj {m n : Nat} : caretRow m = caretRow n ↔ m = n := by
  constructor
  · intro h
    simpa [caretRow] using congrArg List.length h
  · rintro rfl
    rfl

/-- The caret is drawn below the last row of the text that was indented. -/
theorem hasCaret_iff {head foot : List (List Char)} {row : List Char} {drawn column : Nat} :
    HasCaret (head ++ rows (indent ++ cs) ++ caretRow drawn :: foot) foot row column ↔
      lastRow (indent ++ cs) = indent ++ row ∧ drawn = column := by
  obtain ⟨init, hinit⟩ := exists_rows_eq_append (indent ++ cs)
  have hshown : head ++ rows (indent ++ cs) ++ caretRow drawn :: foot =
      (head ++ init) ++ [lastRow (indent ++ cs), caretRow drawn] ++ foot := by
    rw [hinit]
    simp
  rw [HasCaret, hshown]
  constructor
  · rintro ⟨above, h⟩
    obtain ⟨-, hrows⟩ := List.append_inj' (List.append_cancel_right h) rfl
    obtain ⟨hlast, hcaret⟩ := List.cons.inj hrows
    exact ⟨hlast, caretRow_inj.1 (List.cons.inj hcaret).1⟩
  · rintro ⟨hlast, rfl⟩
    exact ⟨head ++ init, by rw [hlast]⟩

/-- **When the last row is that of a place, and the place in it that of the place.** -/
theorem lastRow_indent_iff (before after : List Char) :
    lastRow (indent ++ (before ++ after)) = indent ++ (lastRow before ++ firstRow after) ∧
        before.length = (lastRow before).length ↔
      '\n' ∉ before ∧ ('\n' ∈ after →
        lastRow (before ++ after) = indent ++ firstRow (before ++ after)) := by
  have hindent : '\n' ∉ indent := by decide
  by_cases hbefore : '\n' ∈ before
  · have hlt := length_lastRow_lt hbefore
    exact iff_of_false (fun h => by omega) fun h => h.1 hbefore
  rw [lastRow_of_not_mem hbefore]
  by_cases hafter : '\n' ∈ after
  · obtain ⟨right, down, rfl, hright⟩ := List.eq_append_cons_of_mem hafter
    have hrow : '\n' ∉ before ++ right := by simp [hbefore, hright]
    have hsplit : before ++ (right ++ '\n' :: down) = (before ++ right) ++ '\n' :: down := by simp
    rw [hsplit, ← List.append_assoc indent, lastRow_append_cons, lastRow_append_cons,
      firstRow_append_cons hrow, firstRow_append_cons hright]
    simp [hbefore]
  · have hall : '\n' ∉ indent ++ (before ++ after) := by simp [hindent, hbefore, hafter]
    rw [lastRow_of_not_mem hall, firstRow_of_not_mem hafter]
    simp [hbefore, hafter]

end Text

open Text (rows firstRow lastRow indent caretRow HasCaret)

/-! ## Reports -/

namespace Diagnostic

/-- The rows below the caret. -/
def foot (d : Diagnostic) : List (List Char) :=
  match d.help with
  | none => []
  | some help => [("  help: " ++ help).toList]

theorem toList_withCaret (message source : String) (column : Nat) :
    (withCaret message source column).toList = ("error: " ++ message).toList ++
      '\n' :: ((indent ++ source.toList) ++ '\n' :: caretRow column) := by
  simp [withCaret, indent, caretRow]

theorem rows_renderAt {d : Diagnostic} (h : ∀ help ∈ d.help, '\n' ∉ help.toList) (source : String)
    (column : Nat) :
    rows (d.renderAt source column).toList =
      rows ("error: " ++ d.message).toList ++ rows (indent ++ source.toList) ++
        caretRow column :: d.foot := by
  have hcaret : rows (caretRow column) = [caretRow column] := by
    refine Text.rows_of_not_mem ?_
    simp [caretRow, indent]
  rw [renderAt, String.toList_append, toList_withCaret, List.append_assoc, List.cons_append,
    List.append_assoc, List.cons_append, Text.rows_append_cons, Text.rows_append_cons,
    List.append_assoc, foot]
  congr 2
  cases hhelp : d.help with
  | none => exact (congrArg rows (List.append_nil _)).trans hcaret
  | some help =>
    have hfoot : ("\n  help: " ++ help).toList = '\n' :: ("  help: " ++ help).toList := by simp
    have hrow : '\n' ∉ ("  help: " ++ help).toList := by simp [h help hhelp]
    rw [hfoot, Text.rows_append_cons, hcaret, Text.rows_of_not_mem hrow]
    rfl

/-- Hints have characters, and none that ends a line. -/
theorem single_line_of_help? (c : SyntaxError.Cause) : ∀ help ∈ help? c,
    help.toList ≠ [] ∧ '\n' ∉ help.toList ∧ '\r' ∉ help.toList := by
  -- A text that is written out unifies with its characters, so nothing has to be decoded.
  have hwritten {text : String} {cs : List Char} (htext : text = .ofList cs)
      (h : cs ≠ [] ∧ '\n' ∉ cs ∧ '\r' ∉ cs) :
      text.toList ≠ [] ∧ '\n' ∉ text.toList ∧ '\r' ∉ text.toList := by
    rwa [htext, String.toList_ofList]
  intro help hhelp
  cases c with
  | unexpectedToken text =>
    rw [help?, tokenHelp?] at hhelp
    split_ifs at hhelp <;> cases hhelp <;> exact hwritten rfl (by decide)
  | _ => cases hhelp; exact hwritten rfl (by decide)

theorem not_mem_of_help? (c : SyntaxError.Cause) : ∀ help ∈ help? c, '\n' ∉ help.toList :=
  fun help hhelp => (single_line_of_help? c help hhelp).2.1

end Diagnostic

end Calculator
