import Calculator.Proofs.Evaluation.Malformed

/-!
# The samples of a sweep

A sweep takes one sample at each of its abscissae. Whether an expression has a value does not depend
on the variable, so a sweep has values everywhere or nowhere: its count of failures is zero or the
number of samples.

Main result: `run_all_or_none`.
-/

namespace Calculator.Sweep

variable {s : Sweep} {mode : AngleMode} {e : Expr}

/-! ## One sample -/

theorem sampleAt_of_ok {x y : Float} (h : e.evalAt mode x = .ok y) :
    sampleAt mode e x = (⟨x, y⟩, false) := by
  rw [sampleAt, h]

theorem sampleAt_of_error {x : Float} {error : EvalError} (h : e.evalAt mode x = .error error) :
    sampleAt mode e x = (⟨x, 0.0 / 0.0⟩, true) := by
  rw [sampleAt, h]

theorem x_sampleAt (mode : AngleMode) (e : Expr) (x : Float) : (sampleAt mode e x).1.x = x := by
  unfold sampleAt
  split <;> rfl

/-! ## All samples -/

theorem samples_run (s : Sweep) (mode : AngleMode) (e : Expr) :
    (s.run mode e).samples = s.abscissae.map fun x => (sampleAt mode e x).1 := by
  rw [run, List.map_map]
  rfl

theorem failures_run (s : Sweep) (mode : AngleMode) (e : Expr) :
    (s.run mode e).failures = s.abscissae.countP fun x => (sampleAt mode e x).2 := by
  rw [run, List.countP_map]
  rfl

theorem length_abscissae (s : Sweep) : s.abscissae.length = s.steps.toNat + 1 := by
  rw [abscissae, List.length_map, List.length_range]

/-- There is one sample at each abscissa. -/
theorem map_x_samples_run (s : Sweep) (mode : AngleMode) (e : Expr) :
    (s.run mode e).samples.map Sample.x = s.abscissae := by
  rw [samples_run, List.map_map]
  exact (List.map_congr_left fun x _ => x_sampleAt mode e x).trans (List.map_id _)

theorem length_samples_run (s : Sweep) (mode : AngleMode) (e : Expr) :
    (s.run mode e).samples.length = s.steps.toNat + 1 := by
  rw [samples_run, List.length_map, length_abscissae]

/-- Without failures the height of each sample is the value of the expression there. -/
theorem run_of_ok (s : Sweep) (mode : AngleMode) (h : e.malformed? = none) :
    (∀ p ∈ (s.run mode e).samples, e.evalAt mode p.x = .ok p.y) ∧ (s.run mode e).failures = 0 := by
  have hsample (x : Float) : ∃ y, e.evalAt mode x = .ok y ∧
      sampleAt mode e x = (⟨x, y⟩, false) := by
    obtain ⟨y, hy⟩ := e.exists_evalAt_eq_ok h mode x
    exact ⟨y, hy, sampleAt_of_ok hy⟩
  constructor
  · intro p hp
    rw [samples_run] at hp
    obtain ⟨x, -, rfl⟩ := List.mem_map.1 hp
    obtain ⟨y, hy, hsampled⟩ := hsample x
    rw [hsampled]
    exact hy
  · rw [failures_run, List.countP_eq_zero]
    intro x _
    obtain ⟨y, -, hsampled⟩ := hsample x
    rw [hsampled]
    exact Bool.false_ne_true

/-- With a malformed literal no sample has a height. -/
theorem run_of_error (s : Sweep) (mode : AngleMode) {text : String}
    (h : e.malformed? = some text) :
    (∀ p ∈ (s.run mode e).samples, p.y.isNaN = true) ∧
      (s.run mode e).failures = s.steps.toNat + 1 := by
  have hsample (x : Float) : sampleAt mode e x = (⟨x, 0.0 / 0.0⟩, true) :=
    sampleAt_of_error (e.evalAt_eq_error_of_malformed? h mode x)
  constructor
  · intro p hp
    rw [samples_run] at hp
    obtain ⟨x, -, rfl⟩ := List.mem_map.1 hp
    have hnan : (0.0 / 0.0 : Float).isNaN = true := by decide
    rw [hsample]
    exact hnan
  · rw [failures_run, ← length_abscissae, List.countP_eq_length]
    intro x _
    rw [hsample]

theorem warning?_of_failures_eq_zero {p : Plot} (h : p.failures = 0) : p.warning? = none := by
  rw [Plot.warning?, h]
  exact if_neg (Nat.lt_irrefl 0)

theorem warning?_of_failures_pos {p : Plot} (h : 0 < p.failures) :
    p.warning? = some (toString p.failures ++ " of " ++ toString p.samples.length ++
      " samples failed to evaluate") :=
  if_pos h

/-- Text has a graph if it compiles, whatever its literals. -/
theorem exists_sweepText_iff {text : String} :
    (∃ p, sweepText text mode s = .ok p) ↔ ∃ e, compile text = .ok e := by
  unfold sweepText
  cases compile text with
  | error f => exact iff_of_false (by rintro ⟨p, ⟨⟩⟩) (by rintro ⟨e, ⟨⟩⟩)
  | ok e => exact iff_of_true ⟨_, rfl⟩ ⟨e, rfl⟩

/-- **A sweep has values everywhere or nowhere.** It always gives one sample at each abscissa, as
many as steps and one more. Either each height is the value of the expression there and there is
nothing to tell, or the expression has no value anywhere, each height is NaN, and the warning counts
all samples. -/
theorem run_all_or_none (s : Sweep) (mode : AngleMode) (e : Expr) :
    (s.run mode e).samples.length = s.steps.toNat + 1 ∧
    (s.run mode e).samples.map Sample.x = s.abscissae ∧
    ((∀ p ∈ (s.run mode e).samples, e.evalAt mode p.x = .ok p.y) ∧
        (s.run mode e).failures = 0 ∧ (s.run mode e).warning? = none ∨
      (∃ error, ∀ x, e.evalAt mode x = .error error) ∧
        (∀ p ∈ (s.run mode e).samples, p.y.isNaN = true) ∧
        (s.run mode e).failures = s.steps.toNat + 1 ∧
        (s.run mode e).warning? = some (toString (s.steps.toNat + 1) ++ " of " ++
          toString (s.steps.toNat + 1) ++ " samples failed to evaluate")) ∧
    ∀ text, (∃ p, sweepText text mode s = .ok p) ↔ ∃ e, compile text = .ok e := by
  refine ⟨length_samples_run s mode e, map_x_samples_run s mode e, ?_, fun text =>
    exists_sweepText_iff⟩
  cases h : e.malformed? with
  | none =>
    obtain ⟨hsamples, hfailures⟩ := run_of_ok s mode h
    exact .inl ⟨hsamples, hfailures, warning?_of_failures_eq_zero hfailures⟩
  | some text =>
    obtain ⟨hsamples, hfailures⟩ := run_of_error s mode h
    refine .inr ⟨⟨_, e.evalAt_eq_error_of_malformed? h mode⟩, hsamples, hfailures, ?_⟩
    rw [warning?_of_failures_pos (by omega), hfailures, length_samples_run]

end Calculator.Sweep
