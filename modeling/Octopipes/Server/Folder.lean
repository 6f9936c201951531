import Octopipes.Files.Tree
import Octopipes.Server.Paths

namespace Octopipes

open CMemory Files

/-- The files of the host have paths with separators and dots. -/
abbrev FileTree := Tree slash dot

/-- These are the outcomes of the calls on the client folder. -/
structure FolderCalls where
  stat : Bool
  mkdir : Bool
  opendir : Bool
  unlink : Nat → Bool

/-- The loop keeps the last status that it has read. -/
structure CleanState where
  tree : FileTree
  statbuf : Kind

/-- The status and the removal of an entry look for its name in the current directory. -/
def cleanEntry (unlinked : Bool) (current : Location UInt8) (state : CleanState) (name : List UInt8) :
    CleanState :=
  let location := enter dot current name
  -- a failed `lstat` leaves the status of an earlier entry
  let statbuf := (state.tree.kind location).getD state.statbuf
  if statbuf ≠ .fifo then ⟨state.tree.unlink unlinked location, statbuf⟩
  else ⟨state.tree, statbuf⟩

def cleanEntries (unlinked : Nat → Bool) (current : Location UInt8) (state : CleanState) (index : Nat) :
    List (List UInt8) → CleanState
  | [] => state
  | name :: rest =>
      cleanEntries unlinked current (cleanEntry (unlinked index) current state name) (index + 1) rest

/-- A missing folder is created and an existing one is cleaned. -/
def createClientsDir (calls : FolderCalls) (tree : FileTree) (current : Location UInt8)
    (directory : Location UInt8) (listing : Listing tree directory) (statbuf : Kind) : FileTree × Nat :=
  if tree.kind directory = none ∨ calls.stat = false then
    match tree.mkdir calls.mkdir directory with
    | none => (tree, 1)
    | some made => (made, 0)
  else if tree.kind directory ≠ some .directory ∨ calls.opendir = false then (tree, 1)
  else ((cleanEntries calls.unlink current ⟨tree, statbuf⟩ 0 listing.names).tree, 0)

/-- The start of the CAP listener makes the client folder before it starts anything. -/
def octopipesServerStartCapListenerIn (calls : ListenerCalls) (folderCalls : FolderCalls) (tree : FileTree)
    (current : Location UInt8) (find : CString → Location UInt8) (run : ServerRun)
    (listing : Listing tree (find run.host.server.clientFolder)) (statbuf : Kind) :
    FileTree × ServerRun × OctopipesServerError :=
  if run.host.server.state = .running then (tree, run, .threadAlreadyRunning)
  else
    let (made, rc) := createClientsDir folderCalls tree current _ listing statbuf
    (made, octopipesServerStartCapListener { calls with directory := rc = 0 } run)

/-- Every file outside the folder stays as it was. -/
def SparesOutside (folder : Location UInt8) (before after : FileTree) : Prop :=
  ∀ location, ¬folder <:+ location → before.kind location ≠ none → after.kind location = before.kind location

/-- A listed name means another file of the current directory whose removal is not refused. -/
def MeetsOther (unlinked : Nat → Bool) (tree : FileTree) (current : Location UInt8) (index : Nat)
    (names : List (List UInt8)) : Prop :=
  ∃ place name, names[place]? = some name ∧ tree.kind (enter dot current name) = some .other ∧
    unlinked (index + place) = true

section Entry

variable (unlinked : Bool) (current : Location UInt8) (state : CleanState) (name : List UInt8)

/-- An entry that means no other file leaves the tree. -/
theorem cleanEntry_keeps
    (spared : state.tree.kind (enter dot current name) = some .other → unlinked = false) :
    (cleanEntry unlinked current state name).tree = state.tree := by
  have removed : state.tree.kind (enter dot current name) ≠ some .fifo →
      state.tree.unlink unlinked (enter dot current name) = state.tree := by
    intro file
    cases found : state.tree.kind (enter dot current name) with
    | none => exact state.tree.unlink_missing unlinked found
    | some kind =>
        cases kind with
        | directory => exact state.tree.unlink_directory unlinked found
        | fifo => exact absurd found file
        | other =>
            rw [spared found]
            exact state.tree.unlink_refused _
  rw [cleanEntry]
  split
  · next file =>
      apply removed
      intro fifo
      exact file (by rw [fifo]; rfl)
  · rfl

/-- Another file of this name is removed. -/
theorem cleanEntry_removes (other : state.tree.kind (enter dot current name) = some .other) :
    (cleanEntry true current state name).tree.kind (enter dot current name) = none := by
  rw [cleanEntry]
  rw [other, Option.getD_some, if_pos (by decide), Tree.unlink_kind, other]
  exact if_pos ⟨rfl, by decide, rfl⟩

/-- An entry changes at most the file of its name. -/
theorem cleanEntry_frame (location : Location UInt8) :
    (cleanEntry unlinked current state name).tree.kind location = state.tree.kind location ∨
      (cleanEntry unlinked current state name).tree.kind location = none ∧
        location = enter dot current name ∧ state.tree.kind location ≠ some .directory := by
  rw [cleanEntry]
  split
  · rw [Tree.unlink_kind]
    split
    · next removed => exact Or.inr ⟨rfl, removed.2.2, removed.2.2 ▸ removed.2.1⟩
    · exact Or.inl rfl
  · exact Or.inl rfl

end Entry

section Entries

variable (unlinked : Nat → Bool) (current : Location UInt8) (state : CleanState) (names : List (List UInt8))
  (index : Nat)

/-- The loop changes at most the files of its names. -/
theorem cleanEntries_frame (location : Location UInt8) :
    (cleanEntries unlinked current state index names).tree.kind location = state.tree.kind location ∨
      (cleanEntries unlinked current state index names).tree.kind location = none ∧
        (∃ name ∈ names, location = enter dot current name) ∧ state.tree.kind location ≠ some .directory := by
  induction names generalizing state index with
  | nil => exact Or.inl rfl
  | cons name rest ih =>
      rw [cleanEntries]
      rcases cleanEntry_frame (unlinked index) current state name location with same | ⟨gone, here, file⟩
      · rcases ih (cleanEntry (unlinked index) current state name) (index + 1) with
          kept | ⟨none, ⟨other, member, there⟩, file⟩
        · exact Or.inl (kept.trans same)
        · exact Or.inr ⟨none, ⟨other, List.mem_cons_of_mem _ member, there⟩, same ▸ file⟩
      · have none : (cleanEntries unlinked current (cleanEntry (unlinked index) current state name)
            (index + 1) rest).tree.kind location = none := by
          rcases ih (cleanEntry (unlinked index) current state name) (index + 1) with
            kept | ⟨none, _⟩
          · exact kept.trans gone
          · exact none
        exact Or.inr ⟨none, ⟨name, List.mem_cons_self, here⟩, file⟩

/-- A loop that meets no other file leaves the tree. -/
theorem cleanEntries_keeps (spared : ¬MeetsOther unlinked state.tree current index names) :
    (cleanEntries unlinked current state index names).tree = state.tree := by
  induction names generalizing state index with
  | nil => rfl
  | cons name rest ih =>
      have head : (cleanEntry (unlinked index) current state name).tree = state.tree := by
        apply cleanEntry_keeps
        intro other
        by_contra removed
        exact spared ⟨0, name, rfl, other, Bool.eq_true_of_not_eq_false removed⟩
      rw [cleanEntries, ih (cleanEntry (unlinked index) current state name) (index + 1), head]
      rintro ⟨place, found, listed, other, removed⟩
      rw [head] at other
      rw [Nat.add_assoc, Nat.add_comm 1] at removed
      exact spared ⟨place + 1, found, listed, other, removed⟩

/-- A loop that meets another file removes one. -/
theorem cleanEntries_removes (meets : MeetsOther unlinked state.tree current index names) :
    ∃ name ∈ names, state.tree.kind (enter dot current name) = some .other ∧
      (cleanEntries unlinked current state index names).tree.kind (enter dot current name) = none := by
  induction names generalizing state index with
  | nil =>
      obtain ⟨_, _, impossible, _⟩ := meets
      cases impossible
  | cons name rest ih =>
      obtain ⟨place, found, listed, other, removed⟩ := meets
      rw [cleanEntries]
      by_cases first : state.tree.kind (enter dot current name) = some .other ∧ unlinked index = true
      · refine ⟨name, List.mem_cons_self, first.1, ?_⟩
        have gone := cleanEntry_removes current state name first.1
        rw [← first.2] at gone
        rcases cleanEntries_frame unlinked current (cleanEntry (unlinked index) current state name) rest
          (index + 1) (enter dot current name) with kept | ⟨none, _⟩
        · exact kept.trans gone
        · exact none
      · have head : (cleanEntry (unlinked index) current state name).tree = state.tree := by
          apply cleanEntry_keeps
          intro file
          exact Bool.eq_false_of_not_eq_true fun granted => first ⟨file, granted⟩
        cases place with
        | zero =>
            cases listed
            exact absurd ⟨other, removed⟩ first
        | succ place =>
            rw [Nat.add_comm place, ← Nat.add_assoc] at removed
            obtain ⟨last, member, file, gone⟩ := ih (cleanEntry (unlinked index) current state name) (index + 1)
              ⟨place, found, listed, head ▸ other, removed⟩
            exact ⟨last, List.mem_cons_of_mem _ member, head ▸ file, gone⟩

end Entries

section Folder

variable {tree : FileTree} (current : Directory tree) {folder : Location UInt8}
  (listing : Listing tree folder) (directory : tree.kind folder = some .directory)
  (unlinked : Nat → Bool) (statbuf : Kind)

include directory

/-- The loop spares the files outside the folder exactly from inside it or without another file. -/
theorem cleanEntries_spares_iff :
    SparesOutside folder tree (cleanEntries unlinked current.val ⟨tree, statbuf⟩ 0 listing.names).tree ↔
      folder <:+ current.val ∨ ¬MeetsOther unlinked tree current.val 0 listing.names := by
  constructor
  · intro spares
    by_cases meets : MeetsOther unlinked tree current.val 0 listing.names
    · apply Or.inl
      by_contra outside
      obtain ⟨name, member, other, gone⟩ :=
        cleanEntries_removes unlinked current.val ⟨tree, statbuf⟩ listing.names 0 meets
      have file : tree.kind (enter dot current.val name) ≠ some .directory := by
        rw [other]
        decide
      have place := Tree.enter_file current listing member file
      have kept := spares (enter dot current.val name)
      rw [gone, other, place, Tree.inside_iff directory (place ▸ file)] at kept
      exact absurd (kept outside (by simp)) (by simp)
    · exact Or.inr meets
  · rintro (inside | spared) location outside present
    · rcases cleanEntries_frame unlinked current.val ⟨tree, statbuf⟩ listing.names 0 location with
        kept | ⟨_, ⟨name, member, rfl⟩, file⟩
      · exact kept
      · rw [Tree.enter_file current listing member file] at outside
        exact absurd (List.suffix_cons_iff.mpr (Or.inr inside)) outside
    · rw [cleanEntries_keeps unlinked current.val ⟨tree, statbuf⟩ listing.names 0 spared]

end Folder

/-- The start spares the files outside its folder exactly when it cleans nothing, works inside or meets no file. -/
theorem octopipesServerStartCapListenerIn_spares_iff (calls : ListenerCalls) (folderCalls : FolderCalls)
    (tree : FileTree) (current : Directory tree) (find : CString → Location UInt8) (run : ServerRun)
    (listing : Listing tree (find run.host.server.clientFolder)) (statbuf : Kind) :
    let folder := find run.host.server.clientFolder
    SparesOutside folder tree
        (octopipesServerStartCapListenerIn calls folderCalls tree current.val find run listing statbuf).1 ↔
      (run.host.server.state = .running ∨ tree.kind folder ≠ some .directory ∨ folderCalls.stat = false ∨
        folderCalls.opendir = false) ∨
      folder <:+ current.val ∨ ¬MeetsOther folderCalls.unlink tree current.val 0 listing.names := by
  intro folder
  rw [octopipesServerStartCapListenerIn]
  by_cases running : run.host.server.state = .running
  · rw [if_pos running]
    exact iff_of_true (fun _ _ _ => rfl) (Or.inl (Or.inl running))
  rw [if_neg running, createClientsDir]
  by_cases missing : tree.kind folder = none ∨ folderCalls.stat = false
  · rw [if_pos missing]
    apply iff_of_true
    · cases created : tree.mkdir folderCalls.mkdir folder with
      | none => exact fun _ _ _ => rfl
      | some made => exact fun location _ present => tree.mkdir_keeps created present
    · rcases missing with none | refused
      · exact Or.inl (Or.inr (Or.inl (by rw [none]; decide)))
      · exact Or.inl (Or.inr (Or.inr (Or.inl refused)))
  rw [if_neg missing]
  by_cases closed : tree.kind folder ≠ some .directory ∨ folderCalls.opendir = false
  · rw [if_pos closed]
    apply iff_of_true (fun _ _ _ => rfl)
    rcases closed with other | refused
    · exact Or.inl (Or.inr (Or.inl other))
    · exact Or.inl (Or.inr (Or.inr (Or.inr refused)))
  rw [if_neg closed]
  rw [not_or] at missing
  rw [not_or, not_ne_iff] at closed
  rw [or_iff_right]
  · exact cleanEntries_spares_iff current listing closed.1 folderCalls.unlink statbuf
  · rintro (impossible | other | refused | refused)
    · exact running impossible
    · exact other closed.1
    · exact missing.2 refused
    · exact closed.2 refused

/-- Two folders of the root have a file of the same name. -/
def twoFolders : FileTree :=
  .ofFiles [([], .directory), ([[0x64]], .directory), ([[0x61], [0x64]], .other), ([[0x77]], .directory),
    ([[0x61], [0x77]], .other)] rfl (by decide)

/-- The start in one folder removes the file of the other one. -/
theorem not_octopipesServerStartCapListenerIn_spares_same :
    let folder : FolderPath := ⟨⟨[0x2F, 0x64], by decide⟩, by decide⟩
    let run : ServerRun := .initial .empty folder .version1 ⟨[], List.nodup_nil⟩
    let listing : Listing twoFolders (fileOf [[0x77]] folder) := ⟨[[0x2E], [0x2E, 0x2E], [0x61]], by decide⟩
    ¬SparesOutside (fileOf [[0x77]] folder) twoFolders
      (octopipesServerStartCapListenerIn ⟨true, true, true, true⟩ ⟨true, true, true, fun _ => true⟩ twoFolders
        [[0x77]] (fileOf [[0x77]]) run listing .other).1 := by
  intro folder run listing spares
  have kept := spares [[0x61], [0x77]] (by decide) (by decide)
  cases kept

end Octopipes
