import ApiTools.Proofs.Files.Store

/-!
# Operations that break off

On a machine an operation on files may break off: directories are made on a part of the way only, a
file is opened and not written to its end, a file is neither moved nor taken away.  `Faults` says
which operations break off and what they have done by then.  An atomic write is taken apart into its
steps (`Faulty.run_writeAtomic_cases`): one that fails leaves each file but the one beside the target
as it was (`Faulty.files_writeAtomic_error`), and one that succeeds has written the whole content
(`Faulty.file?_writeAtomic_ok`).
-/

namespace ApiTools

open FileStore

/-! ### Files of a tree -/

namespace FileTree

variable {tree between after : FileTree} {place spot : Place} {names : List String}
  {path content : String}

/-- The content of the file at the place, if there is one. -/
def file? (tree : FileTree) (place : Place) : Option String :=
  match tree.entry? place with
  | some (.file content) => some content
  | _ => none

theorem file?_congr (h : tree.entry? spot = after.entry? spot) :
    tree.file? spot = after.file? spot := by
  unfold file?
  rw [h]

theorem file?_of_directory (h : tree.entry? spot = some .directory) : tree.file? spot = none := by
  unfold file?
  rw [h]

theorem file?_of_file (h : tree.entry? spot = some (.file content)) :
    tree.file? spot = some content := by
  unfold file?
  rw [h]

theorem file?_of_none (h : tree.entry? spot = none) : tree.file? spot = none := by
  unfold file?
  rw [h]

/-- Directories are no files. -/
theorem file?_makeDirectories (h : tree.makeDirectories place names = .ok after) (spot : Place) :
    after.file? spot = tree.file? spot := by
  refine makeDirectories_induct (P := fun t => t.file? spot = tree.file? spot) ?_ rfl h
  intro t missing _ hnone ht
  rw [← ht]
  by_cases hspot : spot = missing
  · subst hspot
    have hroot : spot ≠ [] := by
      rintro rfl
      rw [entry?_nil] at hnone
      cases hnone
    rw [file?_of_directory (entry?_set_self t .directory hroot), file?_of_none hnone]
  · exact file?_congr (entry?_set_of_ne t .directory hspot)

theorem file?_erase_self (tree : FileTree) (place : Place) :
    file? (tree.erase place) place = none := by
  by_cases hroot : place = []
  · exact file?_of_directory (by rw [hroot, entry?_nil])
  · exact file?_of_none (entry?_erase_self tree hroot)

/-- Do the trees hold the same files everywhere but at the place? -/
def SameFilesBut (place : Place) (tree after : FileTree) : Prop :=
  ∀ spot, spot ≠ place → after.file? spot = tree.file? spot

/-- Has a file been begun at the path, with whatever content, or nothing been done? -/
def IsBegun (path : String) (tree between : FileTree) : Prop :=
  between = tree ∨ ∃ content, tree.write path content = .ok between

/-- Is the file at the place as it was, or gone? -/
def IsKeptOrGone (place : Place) (tree after : FileTree) : Prop :=
  after.file? place = tree.file? place ∨ after.file? place = none

theorem IsBegun.sameFilesBut (h : IsBegun path tree between) :
    SameFilesBut (Path.place path) tree between := by
  intro spot hspot
  rcases h with rfl | ⟨content, hwrite⟩
  · rfl
  · obtain ⟨-, -, -, rfl⟩ := write_eq_ok hwrite
    exact file?_congr (entry?_set_of_ne tree _ hspot)

/-- Taking away what has been begun takes away the file that was there before, or does nothing. -/
theorem IsBegun.remove (h : IsBegun path tree between) :
    (between.remove path).toOption.getD between = tree ∨
      (between.remove path).toOption.getD between = tree.erase (Path.place path) := by
  rcases h with rfl | ⟨content, hwrite⟩
  · rcases hlocate : between.locate path with cause | spot
    · left
      unfold FileTree.remove
      rw [hlocate]
      rfl
    · -- A directory that stands there is not taken away, and neither is nothing.
      obtain rfl := (locate_eq_ok hlocate).1
      rw [remove_of_locate hlocate]
      split
      · exact .inl rfl
      · exact .inr rfl
      · exact .inl rfl
  · rw [remove_of_write hwrite]
    exact .inr rfl

theorem sameFilesBut_erase (tree : FileTree) (place : Place) :
    SameFilesBut place tree (tree.erase place) :=
  fun _ hspot => file?_congr (entry?_erase_of_ne tree hspot)

theorem isKeptOrGone_erase (tree : FileTree) (place : Place) :
    IsKeptOrGone place tree (tree.erase place) := .inr (file?_erase_self tree place)

end FileTree

/-! ### The machine -/

/-- Which operations break off, and what they have done by then. -/
structure Faults where
  /-- Directories are made for as many parts of the path. -/
  createDirectories : (path : String) → Option (FileError × Nat)
  /-- The file is not opened, or left with a content. -/
  write : (path content : String) → Option (FileError × Option String)
  /-- A file is moved or not. -/
  rename : (source target : String) → Option FileError
  /-- A file is taken away or not. -/
  remove : (path : String) → Option FileError

/-- Nothing breaks off. -/
def Faults.none : Faults := ⟨fun _ => .none, fun _ _ => .none, fun _ _ => .none, fun _ => .none⟩

/-- Actions on the files of a tree, of which some break off. -/
abbrev Faulty := ReaderT Faults (StateM FileTree)

namespace Faulty

variable {α β : Type} {faults : Faults} {tree after : FileTree} {path content source target : String}
  {cause : FileError}

/-- A change of the tree, or a part of it and the cause for which it breaks off. -/
def change (fault? : Option (FileError × (FileTree → Except FileError FileTree)))
    (result : FileTree → Except FileError FileTree) : StateM FileTree (Except FileError Unit) :=
  match fault? with
  | none => update result
  | some (cause, partly) => fun tree => (.error cause, (partly tree).toOption.getD tree)

/-- The part of a write that has been done. -/
def begin (path : String) (left? : Option String) (tree : FileTree) : Except FileError FileTree :=
  match left? with
  | some left => tree.write path left
  | none => .ok tree

/-- The files of a machine. -/
instance : FileStore Faulty where
  read path := fun _ => FileStore.read path
  write path content := fun faults =>
    change ((faults.write path content).map fun fault => (fault.1, begin path fault.2))
      (·.write path content)
  createDirectories path := fun faults =>
    change ((faults.createDirectories path).map fun fault =>
      (fault.1, (·.makeDirectories [] ((Path.parts path).take fault.2)))) (·.createDirectories path)
  rename source target := fun faults =>
    change ((faults.rename source target).map fun cause => (cause, .ok)) (·.rename source target)
  remove path := fun faults =>
    change ((faults.remove path).map fun cause => (cause, .ok)) (·.remove path)
  isPresent path := fun _ => FileStore.isPresent path
  list path := fun _ => FileStore.list path

theorem run_bind (action : Faulty α) (next : α → Faulty β) (faults : Faults) (tree : FileTree) :
    ((action >>= next).run faults).run tree
      = ((next ((action.run faults).run tree).1).run faults).run ((action.run faults).run tree).2 :=
  rfl

/-! ### What operations leave -/

theorem run_change_snd (fault? : Option (FileError × (FileTree → Except FileError FileTree)))
    (result : FileTree → Except FileError FileTree) (tree : FileTree) :
    ((change fault? result).run tree).2
      = (fault?.elim (result tree) fun fault => fault.2 tree).toOption.getD tree := by
  rcases fault? with _ | fault
  · unfold change update StateT.run
    dsimp only [Option.elim_none]
    rcases result tree with cause | after
    · rfl
    · rfl
  · rfl

/-- However far directories are made, the files are the same. -/
theorem file?_createDirectories (path : String) (faults : Faults) (tree : FileTree) (spot : Place) :
    FileTree.file? (((FileStore.createDirectories path :
      Faulty (Except FileError Unit)).run faults).run tree).2 spot = tree.file? spot := by
  have hmade : ∀ names, FileTree.file?
      ((tree.makeDirectories [] names).toOption.getD tree) spot = tree.file? spot := by
    intro names
    rcases hmade : tree.makeDirectories [] names with cause | made
    · rfl
    · exact FileTree.file?_makeDirectories hmade spot
  refine (congrArg (FileTree.file? · spot) (run_change_snd _ _ tree)).trans ?_
  rcases faults.createDirectories path with _ | ⟨cause, count⟩
  · exact hmade (Path.parts path)
  · exact hmade ((Path.parts path).take count)

theorem isBegun_write (path content : String) (faults : Faults) (tree : FileTree) :
    tree.IsBegun path
      (((write path content : Faulty (Except FileError Unit)).run faults).run tree).2 := by
  have hbegun : ∀ content, tree.IsBegun path ((tree.write path content).toOption.getD tree) := by
    intro content
    rcases hwrite : tree.write path content with cause | after
    · exact .inl rfl
    · exact .inr ⟨content, hwrite⟩
  refine (run_change_snd _ _ tree) ▸ ?_
  rcases faults.write path content with _ | ⟨cause, _ | left⟩
  · exact hbegun content
  · exact .inl rfl
  · exact hbegun left

/-- What succeeds has not broken off. -/
theorem run_change_ok {fault? : Option (FileError × (FileTree → Except FileError FileTree))}
    {result : FileTree → Except FileError FileTree}
    (h : (change fault? result).run tree = (.ok (), after)) : result tree = .ok after := by
  rcases fault? with _ | fault
  · rcases hresult : result tree with cause | between
    · cases (run_update_of_error hresult).symm.trans h
    · rw [(Prod.mk.inj ((run_update_of_ok hresult).symm.trans h)).2]
  · cases h

/-- What is done as a whole or not at all changes nothing where it fails. -/
theorem run_change_error (cause? : Option FileError)
    (result : FileTree → Except FileError FileTree)
    (h : (change (cause?.map fun cause => (cause, .ok)) result).run tree = (.error cause, after)) :
    after = tree := by
  rcases cause? with _ | other
  · rcases hresult : result tree with other | between
    · exact (Prod.mk.inj ((run_update_of_error hresult).symm.trans h)).2.symm
    · cases (run_update_of_ok hresult).symm.trans h
  · exact (Prod.mk.inj h).2.symm

theorem run_rename_error
    (h : ((rename source target : Faulty (Except FileError Unit)).run faults).run tree
      = (.error cause, after)) : after = tree :=
  run_change_error (faults.rename source target) (·.rename source target) h

theorem run_remove_snd (path : String) (faults : Faults) (tree : FileTree) :
    (((remove path : Faulty (Except FileError Unit)).run faults).run tree).2
      = ((faults.remove path).elim (tree.remove path) fun _ => .ok tree).toOption.getD tree := by
  refine (run_change_snd _ _ tree).trans ?_
  rcases faults.remove path with _ | cause
  · rfl
  · rfl

/-! ### An atomic write -/

/-- An atomic write in steps: the new file is written, and moved.  Where one of the two fails, the new
file is taken away and the cause is what is answered. -/
theorem run_writeAtomic_cases {answer : Except FileError Unit}
    (h : ((writeAtomic path content : Faulty (Except FileError Unit)).run faults).run tree
      = (answer, after)) :
    ∃ between,
      (∃ cause, answer = .error cause ∧
        after = (((remove (stagingPath path) : Faulty (Except FileError Unit)).run faults).run
          between).2 ∧
        (((write (stagingPath path) content : Faulty (Except FileError Unit)).run faults).run tree
            = (.error cause, between) ∨
          ((write (stagingPath path) content : Faulty (Except FileError Unit)).run faults).run tree
              = (.ok (), between) ∧
            ((rename (stagingPath path) path : Faulty (Except FileError Unit)).run faults).run between
              = (.error cause, between))) ∨
      (answer = .ok () ∧
        ((write (stagingPath path) content : Faulty (Except FileError Unit)).run faults).run tree
          = (.ok (), between) ∧
        ((rename (stagingPath path) path : Faulty (Except FileError Unit)).run faults).run between
          = (.ok (), after)) := by
  unfold writeAtomic at h
  rw [run_bind] at h
  rcases hwrite : ((write (stagingPath path) content :
    Faulty (Except FileError Unit)).run faults).run tree with ⟨cause | _, between⟩
  · rw [hwrite] at h
    obtain ⟨rfl, rfl⟩ := Prod.mk.inj h
    exact ⟨between, .inl ⟨cause, rfl, rfl, .inl rfl⟩⟩
  · rw [hwrite] at h
    dsimp only at h
    rw [run_bind] at h
    rcases hrename : ((rename (stagingPath path) path :
      Faulty (Except FileError Unit)).run faults).run between with ⟨cause | _, moved⟩
    · rw [hrename] at h
      obtain ⟨rfl, rfl⟩ := Prod.mk.inj h
      obtain rfl := run_rename_error hrename
      exact ⟨moved, .inl ⟨cause, rfl, rfl, .inr ⟨rfl, hrename⟩⟩⟩
    · rw [hrename] at h
      obtain ⟨rfl, rfl⟩ := Prod.mk.inj h
      exact ⟨between, .inr ⟨rfl, rfl, hrename⟩⟩

/-- What an atomic write leaves that fails: a file was begun beside the target at most, and then taken
away, if that did not break off, too. -/
theorem run_writeAtomic_error
    (h : ((writeAtomic path content : Faulty (Except FileError Unit)).run faults).run tree
      = (.error cause, after)) :
    ∃ between, tree.IsBegun (stagingPath path) between ∧
      after = ((faults.remove (stagingPath path)).elim (between.remove (stagingPath path))
        fun _ => .ok between).toOption.getD between := by
  obtain ⟨between, ⟨_, -, rfl, hwrite⟩ | ⟨hanswer, -, -⟩⟩ := run_writeAtomic_cases h
  · have hbegun := isBegun_write (stagingPath path) content faults tree
    rcases hwrite with hwrite | ⟨hwrite, -⟩
    · rw [hwrite] at hbegun
      exact ⟨between, hbegun, run_remove_snd ..⟩
    · rw [hwrite] at hbegun
      exact ⟨between, hbegun, run_remove_snd ..⟩
  · cases hanswer

/-- An atomic write that fails leaves the files as they were.  The one beside the target may be gone,
or hold anything if it cannot be taken away. -/
theorem files_writeAtomic_error
    (h : ((writeAtomic path content : Faulty (Except FileError Unit)).run faults).run tree
      = (.error cause, after)) :
    FileTree.SameFilesBut (Path.place (stagingPath path)) tree after ∧
      (faults.remove (stagingPath path) = none →
        FileTree.IsKeptOrGone (Path.place (stagingPath path)) tree after) := by
  obtain ⟨between, hbegun, rfl⟩ := run_writeAtomic_error h
  rcases faults.remove (stagingPath path) with _ | refused
  · dsimp only [Option.elim_none]
    rcases hbegun.remove with hsame | herased
    · rw [hsame]
      exact ⟨fun _ _ => rfl, fun _ => .inl rfl⟩
    · rw [herased]
      exact ⟨FileTree.sameFilesBut_erase _ _, fun _ => FileTree.isKeptOrGone_erase _ _⟩
  · exact ⟨hbegun.sameFilesBut, fun hnone => by cases hnone⟩

/-- An atomic write that succeeds has put the whole content into the file. -/
theorem file?_writeAtomic_ok
    (h : ((writeAtomic path content : Faulty (Except FileError Unit)).run faults).run tree
      = (.ok (), after)) : after.file? (Path.place path) = some content := by
  obtain ⟨between, ⟨_, hanswer, -, -⟩ | ⟨-, hwrite, hrename⟩⟩ := run_writeAtomic_cases h
  · cases hanswer
  have hwritten : tree.write (stagingPath path) content = .ok between := run_change_ok hwrite
  have hmoved : between.rename (stagingPath path) path = .ok after := run_change_ok hrename
  obtain ⟨spot, goal, found, hsource, hfound, htarget, hgoal, rfl⟩ := rename_eq_ok hmoved
  -- What is moved is what was written.
  obtain rfl : spot = Path.place (stagingPath path) := (FileTree.locate_eq_ok hsource).1
  obtain rfl : goal = Path.place path := (FileTree.locate_eq_ok htarget).1
  rw [entry?_of_write hwritten] at hfound
  cases hfound
  have hroot : Path.place path ≠ [] := by
    intro hroot
    exact hgoal (by rw [hroot, FileTree.entry?_nil])
  exact FileTree.file?_of_file (FileTree.entry?_set_self _ _ hroot)

/-! ### A machine on which nothing breaks off -/

/-- Then an atomic write is the one to a tree. -/
theorem run_writeAtomic_none (path content : String) :
    (writeAtomic path content : Faulty (Except FileError Unit)).run Faults.none
      = (writeAtomic path content : StateM FileTree (Except FileError Unit)) := by
  unfold writeAtomic
  rw [ReaderT.run_bind]
  refine bind_congr fun answer => ?_
  rcases answer with cause | _
  · rfl
  · dsimp only
    rw [ReaderT.run_bind]
    refine bind_congr fun answer => ?_
    rcases answer with cause | _
    · rfl
    · rfl

end Faulty

end ApiTools
