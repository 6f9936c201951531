namespace Transition

variable {State Model Input Output Error : Type}

/-- A run collects the output of each of its steps. -/
def runOutputs (step : State → Input → Except Error (State × Output)) (start : State) :
    List Input → Except Error (State × List Output)
  | [] => .ok (start, [])
  | input :: rest => do
      let stepped ← step start input
      let continued ← runOutputs step stepped.1 rest
      pure (continued.1, stepped.2 :: continued.2)

/-- A total machine answers every input. -/
def answers (machine : Model → Input → Model × Output) (start : Model) : List Input → Model × List Output
  | [] => (start, [])
  | input :: rest =>
      let stepped := machine start input
      let continued := answers machine stepped.1 rest
      (continued.1, stepped.2 :: continued.2)

/-- The steps of a program follow the machine from each pair of related states. -/
def Simulates (step : State → Input → Except Error (State × Output))
    (machine : Model → Input → Model × Output) (Related : State → Model → Prop) : Prop :=
  ∀ state model input, Related state model →
    ∃ next, step state input = .ok (next, (machine model input).2) ∧
      Related next (machine model input).1

/-- A run of a program that follows the machine gives the answers of the machine. -/
theorem Simulates.runOutputs {step : State → Input → Except Error (State × Output)}
    {machine : Model → Input → Model × Output} {Related : State → Model → Prop}
    (simulates : Simulates step machine Related) (start : State) (model : Model)
    (related : Related start model) (inputs : List Input) :
    ∃ final, Transition.runOutputs step start inputs =
        .ok (final, (answers machine model inputs).2) ∧
      Related final (answers machine model inputs).1 := by
  induction inputs generalizing start model with
  | nil => exact ⟨start, rfl, related⟩
  | cons input rest ih =>
      obtain ⟨next, stepped, nextRelated⟩ := simulates start model input related
      obtain ⟨final, continued, finalRelated⟩ := ih next _ nextRelated
      refine ⟨final, ?_, finalRelated⟩
      simp only [Transition.runOutputs, stepped, continued, bind, Except.bind, pure, Except.pure]
      rfl

end Transition
