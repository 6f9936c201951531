import Mathlib.Data.List.Infix
import Octopipes.Files.Resolution

namespace Files

/-- A file is a directory, a pipe or of another kind. -/
inductive Kind where
  | directory
  | fifo
  | other
  deriving DecidableEq, Repr

variable {A : Type} [DecidableEq A]

/-- A plain name is not empty, does not mean a directory by its dots and has no separator. -/
structure PlainName (separator dot : A) (name : List A) : Prop where
  nonempty : name ≠ []
  one : name ≠ [dot]
  two : name ≠ [dot, dot]
  whole : separator ∉ name

instance (separator dot : A) (name : List A) : Decidable (PlainName separator dot name) :=
  decidable_of_iff (name ≠ [] ∧ name ≠ [dot] ∧ name ≠ [dot, dot] ∧ separator ∉ name)
    ⟨fun ⟨nonempty, one, two, whole⟩ => ⟨nonempty, one, two, whole⟩,
      fun plain => ⟨plain.nonempty, plain.one, plain.two, plain.whole⟩⟩

/-- Every file of the tree has a plain name in a directory of the tree. -/
@[ext]
structure Tree (separator dot : A) where
  kind : Location A → Option Kind
  root : kind [] = some .directory
  parent : ∀ name location, kind (name :: location) ≠ none → kind location = some .directory
  plain : ∀ name location, kind (name :: location) ≠ none → PlainName separator dot name

/-- A process works in a directory of the tree. -/
abbrev Directory {separator dot : A} (tree : Tree separator dot) :=
  { location : Location A // tree.kind location = some .directory }

/-- The entries of a directory are its files, the directory itself and its parent. -/
structure Listing {separator dot : A} (tree : Tree separator dot) (folder : Location A) where
  names : List (List A)
  entries : ∀ name ∈ names, name = [dot] ∨ name = [dot, dot] ∨ tree.kind (name :: folder) ≠ none

namespace Tree

variable {separator dot : A} (tree : Tree separator dot)

omit tree in
/-- A list of files is a tree when each of them has a plain name in a listed directory. -/
def ofFiles (files : List (Location A × Kind)) (root : files.lookup [] = some .directory)
    (closed : ∀ file ∈ files, ∀ name ∈ file.1.head?,
      files.lookup file.1.tail = some .directory ∧ PlainName separator dot name) : Tree separator dot :=
  have listed (name : List A) (location : Location A) (present : files.lookup (name :: location) ≠ none) :
      files.lookup location = some .directory ∧ PlainName separator dot name := by
    obtain ⟨kind, found⟩ := Option.ne_none_iff_exists'.mp present
    obtain ⟨before, after, split, _⟩ := List.lookup_eq_some_iff.mp found
    exact closed (name :: location, kind) (by rw [split]; simp) name rfl
  { kind := fun location => files.lookup location
    root := root
    parent := fun name location present => (listed name location present).1
    plain := fun name location present => (listed name location present).2 }

/-- A removal takes a file that is not a directory from the tree. -/
def unlink (granted : Bool) (location : Location A) : Tree separator dot :=
  if removed : granted = true ∧ tree.kind location ≠ some .directory then
    { kind := Function.update tree.kind location none
      root := by
        rw [Function.update_of_ne, tree.root]
        rintro rfl
        exact removed.2 tree.root
      parent := by
        intro name place present
        by_cases same : name :: place = location
        · rw [same, Function.update_self] at present
          exact absurd rfl present
        · rw [Function.update_of_ne same] at present
          have above := tree.parent name place present
          rw [Function.update_of_ne, above]
          rintro rfl
          exact removed.2 above
      plain := by
        intro name place present
        by_cases same : name :: place = location
        · rw [same, Function.update_self] at present
          exact absurd rfl present
        · rw [Function.update_of_ne same] at present
          exact tree.plain name place present }
  else tree

/-- A new directory needs a plain name in a directory of the tree. -/
def mkdir (granted : Bool) : Location A → Option (Tree separator dot)
  | [] => none
  | name :: above =>
      if made : granted = true ∧ tree.kind (name :: above) = none ∧ tree.kind above = some .directory ∧
          PlainName separator dot name then
        some
          { kind := Function.update tree.kind (name :: above) (some .directory)
            root := by rw [Function.update_of_ne (List.cons_ne_nil _ _).symm, tree.root]
            parent := by
              intro other place present
              have older : tree.kind place = some .directory := by
                by_cases same : other :: place = name :: above
                · rw [(List.cons.inj same).2]
                  exact made.2.2.1
                · rw [Function.update_of_ne same] at present
                  exact tree.parent other place present
              rw [Function.update_apply]
              split
              · rfl
              · exact older
            plain := by
              intro other place present
              by_cases same : other :: place = name :: above
              · rw [(List.cons.inj same).1]
                exact made.2.2.2
              · rw [Function.update_of_ne same] at present
                exact tree.plain other place present }
      else none

/-- A removal changes nothing but its own file. -/
theorem unlink_kind (granted : Bool) (location other : Location A) :
    (tree.unlink granted location).kind other =
      if granted = true ∧ tree.kind location ≠ some .directory ∧ other = location then none
      else tree.kind other := by
  unfold unlink
  split
  · next removed =>
      by_cases same : other = location
      · rw [if_pos ⟨removed.1, removed.2, same⟩, same]
        exact Function.update_self location none tree.kind
      · rw [if_neg fun all => same all.2.2]
        exact Function.update_of_ne same none tree.kind
  · next kept => rw [if_neg fun all => kept ⟨all.1, all.2.1⟩]

/-- A removal of a missing file leaves the tree. -/
theorem unlink_missing (granted : Bool) {location : Location A} (missing : tree.kind location = none) :
    tree.unlink granted location = tree := by
  ext1
  funext other
  rw [unlink_kind]
  split
  · next all => rw [all.2.2, missing]
  · rfl

theorem unlink_directory (granted : Bool) {location : Location A}
    (directory : tree.kind location = some .directory) : tree.unlink granted location = tree :=
  dif_neg fun removed => removed.2 directory

theorem unlink_refused (location : Location A) : tree.unlink false location = tree :=
  dif_neg fun removed => nomatch removed.1

/-- A new directory keeps every file. -/
theorem mkdir_keeps {granted : Bool} {location other : Location A} {made : Tree separator dot}
    (created : tree.mkdir granted location = some made) (present : tree.kind other ≠ none) :
    made.kind other = tree.kind other := by
  cases location with
  | nil => cases created
  | cons name above =>
      rw [mkdir] at created
      split at created
      · next conditions =>
          cases created
          apply Function.update_of_ne
          rintro rfl
          exact present conditions.2.1
      · cases created

variable {tree}

/-- An entry other than a directory lies in the current directory under a plain name. -/
theorem enter_file (current : Directory tree) {folder : Location A} (listing : Listing tree folder)
    {name : List A} (member : name ∈ listing.names)
    (file : tree.kind (enter dot current.val name) ≠ some .directory) :
    enter dot current.val name = name :: current.val := by
  rcases listing.entries name member with rfl | rfl | present
  · rw [enter, if_pos (Or.inr rfl)] at file
    exact absurd current.property file
  · rw [enter, if_neg (by simp), if_pos rfl] at file
    have parent : tree.kind current.val.tail = some .directory := by
      obtain ⟨location, directory⟩ := current
      cases location with
      | nil => exact tree.root
      | cons name above => exact tree.parent name above (by rw [directory]; simp)
    exact absurd parent file
  · have plain := tree.plain name folder present
    rw [enter, if_neg (not_or.mpr ⟨plain.nonempty, plain.one⟩), if_neg plain.two]

omit [DecidableEq A] in
/-- A file that is not a directory lies inside a folder exactly when its directory does. -/
theorem inside_iff {folder location : Location A} {name : List A}
    (directory : tree.kind folder = some .directory) (file : tree.kind (name :: location) ≠ some .directory) :
    folder <:+ name :: location ↔ folder <:+ location := by
  rw [List.suffix_cons_iff]
  apply or_iff_right
  rintro rfl
  exact file directory

end Tree

end Files
