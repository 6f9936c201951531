import Mathlib.Data.List.Forall2

namespace Coding

variable {A B : Type}

/-- Two streams with the same bytes start with codes of agreeing values and go on alike. -/
def SelfDelimiting (code : A → List B) (Agree : A → A → Prop) : Prop :=
  ∀ first second rest tail, code first ++ rest = code second ++ tail →
    Agree first second ∧ rest = tail

namespace SelfDelimiting

variable {code : A → List B} {Agree : A → A → Prop}

/-- Two streams of whole codes with the same bytes have agreeing values in the same order. -/
theorem agree_of_flatMap (delimited : SelfDelimiting code Agree) (nonempty : ∀ value, code value ≠ [])
    (firsts seconds : List A) (same : firsts.flatMap code = seconds.flatMap code) :
    List.Forall₂ Agree firsts seconds := by
  induction firsts generalizing seconds with
  | nil =>
      cases seconds with
      | nil => exact .nil
      | cons second seconds =>
          rw [List.flatMap_nil, List.flatMap_cons] at same
          exact absurd (List.append_eq_nil_iff.mp same.symm).1 (nonempty second)
  | cons first firsts ih =>
      cases seconds with
      | nil =>
          rw [List.flatMap_nil, List.flatMap_cons] at same
          exact absurd (List.append_eq_nil_iff.mp same).1 (nonempty first)
      | cons second seconds =>
          rw [List.flatMap_cons, List.flatMap_cons] at same
          obtain ⟨agree, rest⟩ := delimited first second _ _ same
          exact .cons agree (ih seconds rest)

end SelfDelimiting

end Coding
