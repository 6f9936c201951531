import Mathlib.Data.List.Nodup

namespace Collections

/-- An insertion-ordered map lists each of its keys once. -/
structure OrderedMap (K V : Type) where
  entries : List (K × V)
  distinct : (entries.map Prod.fst).Nodup

namespace OrderedMap

variable {K V : Type}

def empty : OrderedMap K V := ⟨[], List.nodup_nil⟩

def keys (map : OrderedMap K V) : List K := map.entries.map Prod.fst

/-- A new key goes to the end. -/
def append (map : OrderedMap K V) (key : K) (value : V) (absent : key ∉ map.keys) :
    OrderedMap K V where
  entries := map.entries ++ [(key, value)]
  distinct := by
    rw [List.map_append, List.nodup_append]
    refine ⟨map.distinct, List.nodup_singleton key, fun other member added single same => absent ?_⟩
    obtain rfl : added = key := List.mem_singleton.mp single
    exact same ▸ member

variable [DecidableEq K]

/-- The other keys keep their order when one key leaves. -/
def erase (map : OrderedMap K V) (key : K) : OrderedMap K V where
  entries := map.entries.filter fun entry => entry.1 ≠ key
  distinct := map.distinct.sublist (List.filter_sublist.map Prod.fst)

def lookup (map : OrderedMap K V) (key : K) : Option V :=
  (map.entries.find? fun entry => entry.1 = key).map Prod.snd

/-- The erased key leaves the entries around it. -/
theorem erase_entries (map : OrderedMap K V) (before after : List (K × V)) (key : K) (value : V)
    (split : map.entries = before ++ (key, value) :: after) :
    (map.erase key).entries = before ++ after := by
  have distinct := map.distinct
  rw [split, List.map_append, List.map_cons, List.nodup_middle, List.nodup_cons, ← List.map_append]
    at distinct
  have kept : ∀ entry ∈ before ++ after, decide (entry.1 ≠ key) = true := fun entry member =>
    decide_eq_true fun same => distinct.1 (List.mem_map.mpr ⟨entry, member, same⟩)
  change map.entries.filter _ = _
  rw [split, List.filter_append, List.filter_cons_of_neg (by simp), ← List.filter_append]
  exact List.filter_eq_self.mpr kept

theorem lookup_none (map : OrderedMap K V) (key : K) (absent : key ∉ map.keys) :
    map.lookup key = none := by
  rw [lookup, Option.map_eq_none_iff, List.find?_eq_none]
  intro entry member same
  exact absent (List.mem_map.mpr ⟨entry, member, of_decide_eq_true same⟩)

/-- The lookup gives the value that stands beside the key. -/
theorem lookup_some (map : OrderedMap K V) (before after : List (K × V)) (key : K) (value : V)
    (split : map.entries = before ++ (key, value) :: after) : map.lookup key = some value := by
  have distinct := map.distinct
  rw [split, List.map_append, List.map_cons, List.nodup_middle, List.nodup_cons] at distinct
  have others : before.find? (fun entry => entry.1 = key) = none := by
    rw [List.find?_eq_none]
    intro entry member same
    exact distinct.1 (List.mem_append_left _ (List.mem_map.mpr ⟨entry, member, of_decide_eq_true same⟩))
  rw [lookup, split, List.find?_append, others, Option.none_or, List.find?_cons_of_pos (by simp)]
  rfl

end OrderedMap

end Collections
