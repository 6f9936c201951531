import Mathlib.Algebra.BigOperators.Group.List.Basic
import Mathlib.Algebra.Order.Ring.Nat
import Mathlib.Data.List.Perm.Basic

namespace Collections

variable {A B S : Type}

/-- A sender without a queue has nothing to serve. -/
def queueOf (queues : List (List A)) (sender : Nat) : List A := queues.getD sender []

/-- Every queue is empty. -/
def Idle (queues : List (List A)) : Prop := ∀ sender, queueOf queues sender = []

def queued (queues : List (List A)) : Nat := (queues.map List.length).sum

/-- These values of one sender stand in the log. -/
def served [DecidableEq S] (sender : S) (log : List (S × A)) : List A :=
  (log.filter fun entry => entry.1 = sender).map Prod.snd

/-- Each service moves the oldest value of one queue into the log. -/
inductive Serving : List (Nat × A) → List (List A) → List (List A) → Prop
  | none (queues : List (List A)) : Serving [] queues queues
  | serve {log : List (Nat × A)} {queues final : List (List A)} {sender : Nat} {oldest : A}
      {rest : List A} (head : queueOf queues sender = oldest :: rest)
      (later : Serving log (queues.set sender rest) final) : Serving ((sender, oldest) :: log) queues final

section Queues

variable (queues : List (List A)) (sender : Nat)

theorem queueOf_set (rest : List A) (inside : sender < queues.length) (other : Nat) :
    queueOf (queues.set sender rest) other = if other = sender then rest else queueOf queues other := by
  unfold queueOf
  by_cases same : other = sender
  · subst same
    simp [inside]
  · simp [same, Ne.symm same]

/-- A sender with a value has a queue. -/
theorem sender_inside {oldest : A} {rest : List A} (head : queueOf queues sender = oldest :: rest) :
    sender < queues.length := by
  by_contra outside
  have missing : queueOf queues sender = [] := by
    rw [queueOf, List.getD_eq_getElem?_getD, List.getElem?_eq_none (Nat.le_of_not_lt outside)]
    rfl
  rw [missing] at head
  cases head

theorem queued_set (rest : List A) {oldest : A} (head : queueOf queues sender = oldest :: rest) :
    queued (queues.set sender rest) + 1 = queued queues := by
  unfold queued
  induction queues generalizing sender with
  | nil => cases head
  | cons queue queues ih =>
      cases sender with
      | zero =>
          obtain rfl : queue = oldest :: rest := head
          simp only [List.set_cons_zero, List.map_cons, List.sum_cons, List.length_cons]
          omega
      | succ sender =>
          have tail := ih sender head
          simp only [List.set_cons_succ, List.map_cons, List.sum_cons]
          omega

variable {queues}

theorem Idle.queued (idle : Idle queues) : queued queues = 0 := by
  have empty : ∀ length ∈ queues.map List.length, length = 0 := by
    intro length member
    obtain ⟨queue, listed, rfl⟩ := List.mem_map.mp member
    obtain ⟨place, inside, rfl⟩ := List.mem_iff_getElem.mp listed
    have empty := idle place
    rw [queueOf, List.getD_eq_getElem?_getD, List.getElem?_eq_getElem inside, Option.getD_some] at empty
    rw [empty]
    rfl
  exact List.sum_eq_zero empty

end Queues

section Logs

variable [DecidableEq S]

@[simp] theorem served_nil (sender : S) : served sender ([] : List (S × A)) = [] := rfl

theorem served_append (sender : S) (first second : List (S × A)) :
    served sender (first ++ second) = served sender first ++ served sender second := by
  simp [served]

theorem served_cons (sender other : S) (value : A) (log : List (S × A)) :
    served sender ((other, value) :: log) =
      if other = sender then value :: served sender log else served sender log := by
  by_cases same : other = sender <;> simp [served, same]

/-- The values of one sender belong to no other one. -/
theorem served_own (sender other : S) (values : List A) :
    served sender (values.map (other, ·)) = if other = sender then values else [] := by
  by_cases same : other = sender
  · simp [served, same, List.filter_map, Function.comp_def]
  · simp [served, same, List.filter_map, Function.comp_def]

/-- The parts of one value belong to its sender. -/
theorem served_flatMap (parts : A → List B) (sender : S) (log : List (S × A)) :
    served sender (log.flatMap fun entry => (parts entry.2).map (entry.1, ·)) =
      (served sender log).flatMap parts := by
  induction log with
  | nil => rfl
  | cons entry log ih =>
      obtain ⟨other, value⟩ := entry
      rw [List.flatMap_cons, served_append, ih, served_cons]
      by_cases same : other = sender
      · subst same
        simp [served, List.filter_map, Function.comp_def]
      · simp [served, List.filter_map, Function.comp_def, same]

/-- Two logs with the same values of each sender hold the same entries. -/
theorem perm_of_served {first second : List (S × A)}
    (agree : ∀ sender, served sender first = served sender second) : first.Perm second := by
  classical
  rw [List.perm_iff_count]
  rintro ⟨sender, value⟩
  have counted (log : List (S × A)) : log.count (sender, value) = (served sender log).count value := by
    induction log with
    | nil => rfl
    | cons entry log ih =>
        obtain ⟨other, here⟩ := entry
        rw [served_cons, List.count_cons, ih]
        by_cases same : other = sender
        · simp [same, List.count_cons]
        · simp [same]
  rw [counted, counted, agree]

end Logs

namespace Serving

variable {log later : List (Nat × A)} {queues between final : List (List A)}

theorem append (first : Serving log queues between) (second : Serving later between final) :
    Serving (log ++ later) queues final := by
  induction first with
  | none queues => exact second
  | serve head _ ih => exact .serve head (ih second)

/-- One service takes the oldest value of one queue. -/
theorem single {sender : Nat} {oldest : A} {rest : List A} (head : queueOf queues sender = oldest :: rest) :
    Serving [(sender, oldest)] queues (queues.set sender rest) :=
  .serve head (.none _)

/-- Each queue is what the log has served of it before what is left. -/
theorem served_queueOf (serving : Serving log queues final) (sender : Nat) :
    served sender log ++ queueOf final sender = queueOf queues sender := by
  induction serving with
  | none queues => rfl
  | @serve log queues final other oldest rest head _ ih =>
      rw [queueOf_set queues other rest (sender_inside queues other head)] at ih
      rw [served_cons]
      by_cases same : other = sender
      · subst same
        rw [if_pos rfl] at ih
        rw [if_pos rfl, List.cons_append, ih, head]
      · rw [if_neg (Ne.symm same)] at ih
        rw [if_neg same, ih]

/-- Each service lowers the number of queued values by one. -/
theorem queued (serving : Serving log queues final) :
    log.length + Collections.queued final = Collections.queued queues := by
  induction serving with
  | none queues => exact Nat.zero_add _
  | serve head _ ih =>
      rw [← queued_set _ _ _ head, List.length_cons]
      omega

/-- A serving that empties the queues has served each of them in its order. -/
theorem served_idle (serving : Serving log queues final) (idle : Idle final) (sender : Nat) :
    served sender log = queueOf queues sender := by
  have whole := serving.served_queueOf sender
  rwa [idle sender, List.append_nil] at whole

theorem length_idle (serving : Serving log queues final) (idle : Idle final) :
    log.length = Collections.queued queues := by
  have whole := serving.queued
  rwa [idle.queued, Nat.add_zero] at whole

end Serving

end Collections
