import Mathlib.Data.List.Forall2

/-!
# Computations that can fail

A sequence of steps succeeds exactly when each step does. Every proof about a rule, a
decoder or an encoder takes its steps apart with these facts.
-/

namespace NodeForms

section

variable {Fault First Second : Type}

theorem ok_bind (result : First) (next : First → Except Fault Second) :
    (.ok result >>= next) = next result := rfl

theorem bind_congr_of_ok {step : Except Fault First} {next other : First → Except Fault Second}
    (same : ∀ middle, step = .ok middle → next middle = other middle) :
    step >>= next = step >>= other := by
  cases step with
  | error fault => rfl
  | ok middle => exact same middle rfl

/-- Two steps succeed when the first does and the second does on its result. -/
theorem bind_eq_ok {step : Except Fault First} {next : First → Except Fault Second}
    {result : Second} :
    (step >>= next) = .ok result ↔ ∃ middle, step = .ok middle ∧ next middle = .ok result := by
  cases step with
  | error fault => simp [bind, Except.bind]
  | ok middle => simp [bind, Except.bind]

/-- Two steps fail when the first does, or when it succeeds and the second fails on its result. -/
theorem bind_eq_error {step : Except Fault First} {next : First → Except Fault Second}
    {fault : Fault} :
    (step >>= next) = .error fault ↔
      step = .error fault ∨ ∃ middle, step = .ok middle ∧ next middle = .error fault := by
  cases step with
  | error other => simp [bind, Except.bind]
  | ok middle => simp [bind, Except.bind]

theorem map_eq_ok {step : Except Fault First} {change : First → Second} {result : Second} :
    step.map change = .ok result ↔ ∃ middle, step = .ok middle ∧ change middle = result := by
  cases step with
  | error fault => simp [Except.map]
  | ok middle => simp [Except.map]

theorem map_eq_error {step : Except Fault First} {change : First → Second} {fault : Fault} :
    step.map change = .error fault ↔ step = .error fault := by
  cases step with
  | error other => simp [Except.map]
  | ok middle => simp [Except.map]

theorem isOk_iff {step : Except Fault First} :
    step.isOk = true ↔ ∃ result, step = .ok result := by
  cases step <;> simp [Except.isOk, Except.toBool]

/-- Going through a list succeeds when every element does, and gives their results in
order. -/
theorem mapM_eq_ok_iff {step : First → Except Fault Second} {inputs : List First}
    {results : List Second} : inputs.mapM step = .ok results ↔
      List.Forall₂ (fun input result => step input = .ok result) inputs results := by
  induction inputs generalizing results with
  | nil => simp [pure, Except.pure, eq_comm]
  | cons input inputs inductionHypothesis =>
      simp only [List.mapM_cons, List.forall₂_cons_left_iff, bind_eq_ok, inductionHypothesis, pure,
        Except.pure, Except.ok.injEq]
      constructor
      · rintro ⟨result, first, others, later, rfl⟩
        exact ⟨result, others, first, later, rfl⟩
      · rintro ⟨result, others, first, later, rfl⟩
        exact ⟨result, first, others, later, rfl⟩

theorem mapM_eq_ok {step : First → Except Fault Second} {inputs : List First}
    {results : List Second} (found : inputs.mapM step = .ok results) :
    List.Forall₂ (fun input result => step input = .ok result) inputs results :=
  mapM_eq_ok_iff.mp found

theorem exists_of_toOption {computed : Except Fault First} {holds : First → Bool}
    (checked : computed.toOption.any holds = true) :
    ∃ result, computed = .ok result ∧ holds result = true := by
  cases computed with
  | error fault => cases checked
  | ok result => exact ⟨result, rfl, checked⟩

theorem exists_left_of_forall₂ {Related : First → Second → Prop} {firsts : List First}
    {seconds : List Second} (related : List.Forall₂ Related firsts seconds) {second : Second}
    (isMember : second ∈ seconds) : ∃ first ∈ firsts, Related first second := by
  induction related with
  | nil => cases isMember
  | cons head _ inductionHypothesis =>
      rcases List.mem_cons.mp isMember with rfl | later
      · exact ⟨_, List.mem_cons_self, head⟩
      · obtain ⟨first, isFirst, holds⟩ := inductionHypothesis later
        exact ⟨first, List.mem_cons_of_mem _ isFirst, holds⟩

theorem exists_right_of_forall₂ {Related : First → Second → Prop} {firsts : List First}
    {seconds : List Second} (related : List.Forall₂ Related firsts seconds) {first : First}
    (isMember : first ∈ firsts) : ∃ second ∈ seconds, Related first second :=
  exists_left_of_forall₂ related.flip isMember

end

end NodeForms
