import Mathlib.Data.List.Basic

namespace Transition

variable {State Input Error : Type}

/-- A sequence returns only when both parts return. -/
theorem bind_eq_ok {A B : Type} {first : Except Error A} {next : A → Except Error B} {result : B} :
    (first >>= next) = .ok result ↔ ∃ value, first = .ok value ∧ next value = .ok result := by
  cases first with
  | error reason =>
      constructor
      · intro returned
        cases returned
      · rintro ⟨value, returned, _⟩
        cases returned
  | ok value => exact ⟨fun returned => ⟨value, rfl, returned⟩, fun ⟨_, rfl, returned⟩ => returned⟩

section Runs

variable (step : State → Input → Except Error State)

/-- A run takes one step for each input and ends at the first error. -/
def run (start : State) (inputs : List Input) : Except Error State := inputs.foldlM step start

/-- The property holds at the state and the input of each step. -/
def Along (property : State → Input → Prop) : State → List Input → Prop
  | _, [] => True
  | state, input :: rest =>
      property state input ∧ ∀ next, step state input = .ok next → Along property next rest

/-- A run reaches the state after each of its prefixes. -/
def Reaches (start : State) (inputs : List Input) (reached : State) : Prop :=
  ∃ taken, taken <+: inputs ∧ run step start taken = .ok reached

@[simp] theorem run_nil (start : State) : run step start [] = .ok start := rfl

theorem run_cons (start : State) (input : Input) (rest : List Input) :
    run step start (input :: rest) = (step start input >>= fun next => run step next rest) := rfl

/-- The first step of a run that returns also returns. -/
theorem run_cons_eq_ok {start final : State} {input : Input} {rest : List Input} :
    run step start (input :: rest) = .ok final ↔
      ∃ next, step start input = .ok next ∧ run step next rest = .ok final := by
  rw [run_cons]
  exact bind_eq_ok

theorem reaches_start (start : State) (inputs : List Input) : Reaches step start inputs start :=
  ⟨[], List.nil_prefix, rfl⟩

/-- A state is reached at once or after the first step. -/
theorem reaches_cons {start reached : State} {input : Input} {rest : List Input} :
    Reaches step start (input :: rest) reached ↔
      reached = start ∨ ∃ next, step start input = .ok next ∧ Reaches step next rest reached := by
  constructor
  · rintro ⟨taken, isPrefix, returned⟩
    cases taken with
    | nil => exact Or.inl (Except.ok.inj returned).symm
    | cons first taken =>
        obtain ⟨rfl, tail⟩ := List.cons_prefix_cons.mp isPrefix
        obtain ⟨next, stepped, continued⟩ := (run_cons_eq_ok step).mp returned
        exact Or.inr ⟨next, stepped, taken, tail, continued⟩
  · rintro (rfl | ⟨next, stepped, taken, tail, continued⟩)
    · exact reaches_start step reached _
    · exact ⟨input :: taken, List.cons_prefix_cons.mpr ⟨rfl, tail⟩,
        (run_cons_eq_ok step).mpr ⟨next, stepped, continued⟩⟩

theorem along_true (start : State) (inputs : List Input) : Along step (fun _ _ => True) start inputs := by
  induction inputs generalizing start with
  | nil => trivial
  | cons input rest ih => exact ⟨trivial, fun next _ => ih next⟩

end Runs

section Rules

variable {step : State → Input → Except Error State}

/-- A property continues along the run after a known step. -/
theorem along_cons {property : State → Input → Prop} {state next : State} {input : Input}
    {rest : List Input} (stepped : step state input = .ok next) (now : property state input)
    (later : Along step property next rest) : Along step property state (input :: rest) := by
  refine ⟨now, fun other again => ?_⟩
  cases stepped.symm.trans again
  exact later

/-- A property of the inputs holds along the run beside another one. -/
theorem along_and_of_forall {allowed : Input → Prop} {property : State → Input → Prop} {start : State}
    {inputs : List Input} (allows : ∀ input ∈ inputs, allowed input)
    (holds : Along step property start inputs) :
    Along step (fun state input => allowed input ∧ property state input) start inputs := by
  induction inputs generalizing start with
  | nil => trivial
  | cons input rest ih =>
      exact ⟨⟨allows input List.mem_cons_self, holds.1⟩, fun next stepped =>
        ih (fun other member => allows other (List.mem_cons_of_mem input member)) (holds.2 next stepped)⟩

/-- A guard that implies a property under an invariant implies it along every run. -/
theorem along_imp {first second : State → Input → Prop} (invariant : State → Prop)
    (implies : ∀ state input, invariant state → first state input → second state input)
    (preserved : ∀ state input next, invariant state → first state input →
      step state input = .ok next → invariant next)
    (start : State) (inputs : List Input) (initially : invariant start)
    (guarded : Along step first start inputs) : Along step second start inputs := by
  induction inputs generalizing start with
  | nil => trivial
  | cons input rest ih =>
      obtain ⟨now, later⟩ := guarded
      exact ⟨implies start input initially now, fun next stepped =>
        ih next (preserved start input next initially now stepped) (later next stepped)⟩

/-- Two properties that agree under an invariant agree along every run. -/
theorem along_iff {first second : State → Input → Prop} (invariant : State → Prop)
    (agree : ∀ state input, invariant state → (first state input ↔ second state input))
    (preserved : ∀ state input next, invariant state → first state input →
      step state input = .ok next → invariant next)
    (start : State) (inputs : List Input) (initially : invariant start) :
    Along step first start inputs ↔ Along step second start inputs := by
  constructor
  · exact along_imp invariant (fun state input holds => (agree state input holds).mp) preserved start inputs
      initially
  · refine along_imp invariant (fun state input holds => (agree state input holds).mpr) ?_ start inputs
      initially
    intro state input next holds guarded
    exact preserved state input next holds ((agree state input holds).mpr guarded)

/-- An invariant of the guarded steps holds in every state of a guarded run. -/
theorem invariant_of_along {guard : State → Input → Prop} (invariant : State → Prop)
    (preserved : ∀ state input next, invariant state → guard state input →
      step state input = .ok next → invariant next)
    (start : State) (inputs : List Input) (initially : invariant start)
    (guarded : Along step guard start inputs) :
    ∀ reached, Reaches step start inputs reached → invariant reached := by
  induction inputs generalizing start with
  | nil =>
      rintro reached ⟨taken, isPrefix, returned⟩
      obtain rfl := List.prefix_nil.mp isPrefix
      exact Except.ok.inj returned ▸ initially
  | cons input rest ih =>
      intro reached reaches
      rcases (reaches_cons step).mp reaches with rfl | ⟨next, stepped, continued⟩
      · exact initially
      · exact ih next (preserved start input next initially guarded.1 stepped)
          (guarded.2 next stepped) reached continued

/-- An invariant of every step holds in every state of a run. -/
theorem invariant_of_reaches (invariant : State → Prop)
    (preserved : ∀ state input next, invariant state → step state input = .ok next → invariant next)
    (start : State) (inputs : List Input) (initially : invariant start) :
    ∀ reached, Reaches step start inputs reached → invariant reached :=
  invariant_of_along invariant (fun state input next holds _ => preserved state input next holds) start inputs
    initially (along_true step start inputs)

/-- An exact step condition is exact for the runs that return with a property. -/
theorem returns_property_iff_guarded {guard : State → Input → Prop} (invariant property : State → Prop)
    (exactStep : ∀ state input, invariant state →
      ((∃ next, step state input = .ok next ∧ property next) ↔ guard state input))
    (preserved : ∀ state input next, invariant state → step state input = .ok next →
      property next → invariant next)
    (start : State) (inputs : List Input) (initially : invariant start) (holds : property start) :
    (∀ taken, taken <+: inputs → ∃ reached, run step start taken = .ok reached ∧ property reached) ↔
      Along step guard start inputs := by
  induction inputs generalizing start with
  | nil =>
      refine ⟨fun _ => trivial, fun _ taken isPrefix => ?_⟩
      obtain rfl := List.prefix_nil.mp isPrefix
      exact ⟨start, rfl, holds⟩
  | cons input rest ih =>
      constructor
      · intro always
        obtain ⟨next, returned, nextHolds⟩ :=
          always [input] (List.cons_prefix_cons.mpr ⟨rfl, List.nil_prefix⟩)
        obtain ⟨_, stepped, ended⟩ := (run_cons_eq_ok step).mp returned
        obtain rfl := Except.ok.inj ended
        refine ⟨(exactStep start input initially).mp ⟨_, stepped, nextHolds⟩, fun other otherStepped => ?_⟩
        obtain rfl := Except.ok.inj (stepped.symm.trans otherStepped)
        refine (ih _ (preserved start input _ initially stepped nextHolds) nextHolds).mp
          fun taken isPrefix => ?_
        obtain ⟨reached, continued, kept⟩ :=
          always (input :: taken) (List.cons_prefix_cons.mpr ⟨rfl, isPrefix⟩)
        obtain ⟨_, again, continued⟩ := (run_cons_eq_ok step).mp continued
        obtain rfl := Except.ok.inj (stepped.symm.trans again)
        exact ⟨reached, continued, kept⟩
      · rintro ⟨now, later⟩ taken isPrefix
        cases taken with
        | nil => exact ⟨start, rfl, holds⟩
        | cons first taken =>
            obtain ⟨rfl, tail⟩ := List.cons_prefix_cons.mp isPrefix
            obtain ⟨next, stepped, nextHolds⟩ := (exactStep start first initially).mpr now
            obtain ⟨reached, continued, kept⟩ :=
              (ih next (preserved start first next initially stepped nextHolds) nextHolds).mpr
                (later next stepped) taken tail
            exact ⟨reached, (run_cons_eq_ok step).mpr ⟨next, stepped, continued⟩, kept⟩

/-- An exact step condition is exact for the runs that return with the invariant. -/
theorem returns_iff_guarded {guard : State → Input → Prop} (invariant : State → Prop)
    (exactStep : ∀ state input, invariant state →
      ((∃ next, step state input = .ok next ∧ invariant next) ↔ guard state input))
    (start : State) (inputs : List Input) (initially : invariant start) :
    (∀ taken, taken <+: inputs → ∃ reached, run step start taken = .ok reached ∧ invariant reached) ↔
      Along step guard start inputs :=
  returns_property_iff_guarded invariant invariant exactStep (fun _ _ _ _ _ kept => kept) start inputs
    initially initially

variable {Model : Type} {machine : Model → Input → Model} {Related : State → Model → Prop}
  {guard : State → Input → Prop}

/-- A guarded run of a program whose guarded steps follow a machine returns and follows the machine. -/
theorem follows_of_along
    (follows : ∀ state model input, Related state model → guard state input →
      ∃ next, step state input = .ok next ∧ Related next (machine model input))
    (start : State) (model : Model) (inputs : List Input) (related : Related start model)
    (guarded : Along step guard start inputs) :
    ∀ taken, taken <+: inputs →
      ∃ reached, run step start taken = .ok reached ∧ Related reached (taken.foldl machine model) := by
  induction inputs generalizing start model with
  | nil =>
      intro taken isPrefix
      obtain rfl := List.prefix_nil.mp isPrefix
      exact ⟨start, rfl, related⟩
  | cons input rest ih =>
      intro taken isPrefix
      cases taken with
      | nil => exact ⟨start, rfl, related⟩
      | cons first taken =>
          obtain ⟨rfl, tail⟩ := List.cons_prefix_cons.mp isPrefix
          obtain ⟨next, stepped, nextRelated⟩ := follows start model first related guarded.1
          obtain ⟨reached, continued, reachedRelated⟩ :=
            ih next _ nextRelated (guarded.2 next stepped) taken tail
          exact ⟨reached, (run_cons_eq_ok step).mpr ⟨next, stepped, continued⟩, reachedRelated⟩

/-- A run of the program is guarded when the run of the machine permits its inputs. -/
theorem along_of_machine {permits : Model → Input → Prop}
    (follows : ∀ state model input, Related state model → permits model input →
      ∃ next, step state input = .ok next ∧ Related next (machine model input))
    (permitted : ∀ state model input, Related state model → permits model input → guard state input)
    (start : State) (model : Model) (inputs : List Input) (related : Related start model)
    (along : Along (fun model input => (.ok (machine model input) : Except Error Model)) permits model inputs) :
    Along step guard start inputs := by
  induction inputs generalizing start model with
  | nil => trivial
  | cons input rest ih =>
      obtain ⟨now, later⟩ := along
      obtain ⟨next, stepped, nextRelated⟩ := follows start model input related now
      exact along_cons stepped (permitted start model input related now) (ih next _ nextRelated (later _ rfl))

/-- An exact step condition is exact for a property of the followed machine. -/
theorem machine_property_iff_along {property : Model → Prop} {condition : State → Input → Prop}
    (follows : ∀ state model input, Related state model → guard state input →
      ∃ next, step state input = .ok next ∧ Related next (machine model input))
    (exactStep : ∀ state model input, Related state model → property model → guard state input →
      (property (machine model input) ↔ condition state input))
    (start : State) (model : Model) (inputs : List Input) (related : Related start model) (holds : property model)
    (guarded : Along step guard start inputs) :
    (∀ taken, taken <+: inputs → property (taken.foldl machine model)) ↔ Along step condition start inputs := by
  induction inputs generalizing start model with
  | nil =>
      refine ⟨fun _ => trivial, fun _ taken isPrefix => ?_⟩
      obtain rfl := List.prefix_nil.mp isPrefix
      exact holds
  | cons input rest ih =>
      obtain ⟨next, stepped, nextRelated⟩ := follows start model input related guarded.1
      have exact_ := exactStep start model input related holds guarded.1
      constructor
      · intro always
        have first := always [input] (List.cons_prefix_cons.mpr ⟨rfl, List.nil_prefix⟩)
        refine along_cons stepped (exact_.mp first) ?_
        refine (ih next _ nextRelated first (guarded.2 next stepped)).mp fun taken isPrefix => ?_
        exact always (input :: taken) (List.cons_prefix_cons.mpr ⟨rfl, isPrefix⟩)
      · rintro ⟨now, later⟩ taken isPrefix
        cases taken with
        | nil => exact holds
        | cons first taken =>
            obtain ⟨rfl, tail⟩ := List.cons_prefix_cons.mp isPrefix
            exact (ih next _ nextRelated (exact_.mpr now) (guarded.2 next stepped)).mpr (later next stepped)
              taken tail

end Rules

end Transition
