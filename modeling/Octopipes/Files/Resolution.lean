import Mathlib.Data.List.Basic

namespace Files

variable {A : Type} [DecidableEq A]

/-- A location lists the names from the innermost one to the root. -/
abbrev Location (A : Type) := List (List A)

/-- An empty name and one dot stay, and two dots leave a directory. -/
def enter (dot : A) (location : Location A) (name : List A) : Location A :=
  if name = [] ∨ name = [dot] then location
  else if name = [dot, dot] then location.tail
  else name :: location

/-- A path that starts with a separator is resolved from the root. -/
def resolve (separator dot : A) (current : Location A) (path : List A) : Location A :=
  (path.splitOn separator).foldl (enter dot) (if path.head? = some separator then [] else current)

/-- A name of three or more letters is entered as itself. -/
theorem enter_long (dot : A) (location : Location A) (name : List A) (long : 2 < name.length) :
    enter dot location name = name :: location := by
  have some : ¬(name = [] ∨ name = [dot]) := by
    rintro (rfl | rfl)
    · exact absurd long (by simp)
    · exact absurd long (by simp)
  have other : name ≠ [dot, dot] := by
    rintro rfl
    exact absurd long (by simp)
  rw [enter, if_neg some, if_neg other]

section Resolve

variable (separator dot : A) (current : Location A) (directory : List A)

/-- A path behind a directory is resolved from the location of the directory. -/
theorem resolve_append (path : List A) :
    resolve separator dot current (directory ++ separator :: path) =
      (path.splitOn separator).foldl (enter dot) (resolve separator dot current (directory ++ [separator])) := by
  have start : (directory ++ separator :: path).head? = (directory ++ [separator]).head? := by
    cases directory <;> rfl
  have none : ([] : List A).splitOn separator = [[]] := List.splitOn_nil separator
  rw [resolve, resolve, start, List.splitOn_append_cons_self, List.splitOn_append_cons_self, List.foldl_append,
    List.foldl_append, none]
  rfl

/-- A long name without a separator lies directly inside its directory. -/
theorem resolve_name (name : List A) (plain : separator ∉ name) (long : 2 < name.length) :
    resolve separator dot current (directory ++ separator :: name) =
      name :: resolve separator dot current (directory ++ [separator]) := by
  rw [resolve_append, List.splitOn_eq_singleton plain]
  exact enter_long dot _ name long

/-- A path with a separator leaves its directory or means one of the names inside it. -/
theorem resolve_nested (front base : List A) (plain : separator ∉ base) (long : 2 < base.length) :
    (∃ other, other ≠ resolve separator dot current (directory ++ [separator]) ∧
      resolve separator dot current (directory ++ separator :: (front ++ separator :: base)) = base :: other) ∨
    resolve separator dot current (directory ++ separator :: (front ++ separator :: base)) =
      resolve separator dot current (directory ++ separator :: base) := by
  have nested : resolve separator dot current (directory ++ separator :: (front ++ separator :: base)) =
      base :: (front.splitOn separator).foldl (enter dot)
        (resolve separator dot current (directory ++ [separator])) := by
    rw [resolve_append, List.splitOn_append_cons_self, List.foldl_append, List.splitOn_eq_singleton plain]
    exact enter_long dot _ base long
  rw [nested, resolve_name separator dot current directory base plain long]
  by_cases home : (front.splitOn separator).foldl (enter dot)
      (resolve separator dot current (directory ++ [separator])) =
        resolve separator dot current (directory ++ [separator])
  · exact Or.inr (by rw [home])
  · exact Or.inl ⟨_, home, rfl⟩

end Resolve

end Files
