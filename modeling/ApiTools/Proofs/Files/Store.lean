import ApiTools.Files.Store
import ApiTools.Proofs.Files.Runs
import ApiTools.Proofs.Files.Tree

/-!
# Atomic writes to a tree

In a directory to which there is a way an atomic write does one of three things
(`FileStore.run_writeAtomic`): it puts the file in its place and leaves nothing beside it, or a
directory stands where the file or what is put together beside it should go.
-/

namespace ApiTools

namespace FileStore

open FileTree

variable {tree : FileTree} {base name : String}

/-- The name of the file in which a file is put together. -/
def stagingName (name : String) : String := "." ++ name ++ ".tmp"

theorem isSegment_stagingName (h : Path.IsSegment name) : Path.IsSegment (stagingName name) := by
  have hlength : (stagingName name).toList.length = name.toList.length + 5 := by
    unfold stagingName
    rw [String.toList_append, String.toList_append, List.length_append, List.length_append]
    simp
    omega
  have hne : ∀ s : String, s.toList.length < 5 → stagingName name ≠ s := by
    rintro s hs rfl
    omega
  refine ⟨hne _ (by decide), hne _ (by decide), hne _ (by decide), ?_⟩
  unfold stagingName
  rw [String.toList_append, String.toList_append, List.mem_append, List.mem_append]
  rintro ((h' | h') | h')
  · revert h'
    decide
  · exact h.no_slash h'
  · revert h'
    decide

theorem stagingName_ne (name : String) : stagingName name ≠ name := by
  intro h
  have hlength := congrArg (fun s => s.toList.length) h
  unfold stagingName at hlength
  simp only [String.toList_append, List.length_append] at hlength
  have hpoint : ".".toList.length = 1 := rfl
  omega

theorem stagingPath_of_fileName? {path : String} (h : Path.fileName? path = some name) :
    stagingPath path = Path.join ((Path.parent? path).getD "") (stagingName name) := by
  unfold stagingPath Path.withFileName
  rw [h]
  rfl

theorem stagingPath_join (base : String) (h : Path.IsSegment name) :
    stagingPath (Path.join base name)
      = Path.join ((Path.parent? (Path.join base name)).getD "") (stagingName name) :=
  stagingPath_of_fileName? (Path.fileName?_join base h)

/-- A file is not put together in its own place. -/
theorem place_stagingPath_ne (path : String) : Path.place (stagingPath path) ≠ Path.place path := by
  intro heq
  rcases hname : Path.fileName? path with _ | name
  · -- Below a path without a name there is a name more.
    have hstaging : stagingPath path = Path.join path (stagingName "") := by
      unfold stagingPath Path.withFileName
      rw [hname]
      rfl
    rw [hstaging, Path.place_join path (by decide)] at heq
    simpa using congrArg List.length heq
  · rw [stagingPath_of_fileName? hname, Path.place_of_fileName? hname,
      Path.place_join _ (isSegment_stagingName (Path.parts_of_fileName? hname).2),
      List.append_cancel_left_eq, List.singleton_inj] at heq
    exact stagingName_ne name heq

/-- The way to the file that is put together is the way to the file. -/
theorem locate_stagingPath (hname : Path.IsSegment name)
    (h : tree.AreDirectories (ways [] (Path.parts base))) :
    tree.locate (stagingPath (Path.join base name))
      = .ok (Path.place base ++ [stagingName name]) := by
  have hparent := Path.parts_parent?_join base hname
  rw [stagingPath_join base hname, locate_join (isSegment_stagingName hname) (by rwa [hparent])]
  unfold Path.place
  rw [hparent]

theorem endsInSlash_stagingPath (base : String) (hname : Path.IsSegment name) :
    Path.endsInSlash (stagingPath (Path.join base name)) = false := by
  rw [stagingPath_join base hname]
  exact Path.not_endsInSlash_join _ (isSegment_stagingName hname)

/-! ### Single operations -/

section Operations

variable {path content : String} {spot : Place}

theorem write_of_locate (hlocate : tree.locate path = .ok spot)
    (hslash : Path.endsInSlash path = false) (content : String) :
    tree.write path content =
      if tree.entry? spot = some .directory then .error .isADirectory
      else .ok (tree.set spot (.file content)) := by
  unfold FileTree.write
  rw [hlocate]
  rcases hentry : tree.entry? spot with _ | (_ | content)
  · simp [hentry, hslash, bind, Except.bind, pure, Except.pure]
  · simp [hentry, bind, Except.bind, throw, throwThe, MonadExceptOf.throw]
  · simp [hentry, bind, Except.bind, pure, Except.pure]

theorem read_of_locate (hlocate : tree.locate path = .ok spot)
    (hentry : tree.entry? spot = some (.file content)) : tree.read path = .ok content := by
  unfold FileTree.read
  rw [hlocate]
  simp [hentry, bind, Except.bind, pure, Except.pure]

theorem remove_of_locate (hlocate : tree.locate path = .ok spot) :
    tree.remove path =
      match tree.entry? spot with
      | some .directory => .error .isADirectory
      | some (.file _) => .ok (tree.erase spot)
      | none => .error .notFound := by
  unfold FileTree.remove
  rw [hlocate]
  rcases hentry : tree.entry? spot with _ | (_ | content) <;>
    simp [hentry, bind, Except.bind, pure, Except.pure, throw, throwThe, MonadExceptOf.throw]

theorem rename_of_locate {target : String} {goal : Place} (hread : tree.read path = .ok content)
    (hlocate : tree.locate path = .ok spot) (htarget : tree.locate target = .ok goal)
    (hslash : Path.endsInSlash target = false) :
    tree.rename path target =
      if tree.entry? goal = some .directory then .error .isADirectory
      else .ok ((tree.erase spot).set goal (.file content)) := by
  unfold FileTree.rename
  rw [hread, hlocate, htarget]
  rcases hentry : tree.entry? goal with _ | (_ | content) <;>
    simp [hentry, hslash, bind, Except.bind, pure, Except.pure, throw, throwThe, MonadExceptOf.throw]

/-- A file that is located ends no path with a slash. -/
theorem not_endsInSlash_of_file (hlocate : tree.locate path = .ok spot)
    (hentry : tree.entry? spot = some (.file content)) : Path.endsInSlash path = false := by
  unfold locate at hlocate
  by_cases hempty : path.isEmpty = true
  · rw [if_pos hempty] at hlocate
    cases hlocate
  rw [if_neg hempty] at hlocate
  rcases hwalk : tree.walk [] (Path.parts path) with cause | found
  · rw [hwalk] at hlocate
    cases hlocate
  rw [hwalk] at hlocate
  rw [Bool.eq_false_iff]
  intro hslash
  rcases hfound : tree.entry? found with _ | (_ | other)
  · simp only [hfound] at hlocate
    cases hlocate
    rw [hfound] at hentry
    cases hentry
  · simp only [hfound] at hlocate
    cases hlocate
    rw [hfound] at hentry
    cases hentry
  · simp only [hfound, if_pos hslash] at hlocate
    cases hlocate

/-- A write that succeeds puts the file where the path leads, and no directory stood there. -/
theorem write_eq_ok {after : FileTree} (h : tree.write path content = .ok after) :
    tree.locate path = .ok (Path.place path) ∧ Path.endsInSlash path = false ∧
      tree.entry? (Path.place path) ≠ some .directory ∧
      after = tree.set (Path.place path) (.file content) := by
  unfold FileTree.write at h
  rcases hlocate : tree.locate path with cause | spot
  · rw [hlocate] at h
    cases h
  rw [hlocate] at h
  obtain rfl : spot = Path.place path := (locate_eq_ok hlocate).1
  rcases hentry : tree.entry? (Path.place path) with _ | (_ | other)
  · by_cases hslash : Path.endsInSlash path = true
    · simp [bind, Except.bind, hentry, hslash, throw, throwThe, MonadExceptOf.throw] at h
    · simp [bind, Except.bind, hentry, hslash, pure, Except.pure] at h
      exact ⟨rfl, by simpa using hslash, by simp, h.symm⟩
  · simp [bind, Except.bind, hentry, throw, throwThe, MonadExceptOf.throw] at h
  · simp [bind, Except.bind, hentry, pure, Except.pure] at h
    exact ⟨rfl, not_endsInSlash_of_file hlocate hentry, by simp, h.symm⟩

/-- A file that is moved goes to where the other path leads, and no directory stood there. -/
theorem rename_eq_ok {after : FileTree} {target : String} (h : tree.rename path target = .ok after) :
    ∃ spot goal content, tree.locate path = .ok spot ∧ tree.entry? spot = some (.file content) ∧
      tree.locate target = .ok goal ∧ tree.entry? goal ≠ some .directory ∧
      after = (tree.erase spot).set goal (.file content) := by
  unfold FileTree.rename FileTree.read at h
  rcases hlocate : tree.locate path with cause | spot
  · rw [hlocate] at h
    cases h
  rcases hentry : tree.entry? spot with _ | (_ | content)
  · simp [hlocate, hentry, bind, Except.bind, throw, throwThe, MonadExceptOf.throw] at h
  · simp [hlocate, hentry, bind, Except.bind, throw, throwThe, MonadExceptOf.throw] at h
  rcases htarget : tree.locate target with cause | goal
  · simp [hlocate, hentry, htarget, bind, Except.bind, pure, Except.pure] at h
  refine ⟨spot, goal, content, rfl, hentry, rfl, ?_⟩
  rcases hgoal : tree.entry? goal with _ | (_ | other)
  · by_cases hslash : Path.endsInSlash target = true
    · simp [hlocate, hentry, htarget, hgoal, hslash, bind, Except.bind, pure, Except.pure, throw,
        throwThe, MonadExceptOf.throw] at h
    · simp [hlocate, hentry, htarget, hgoal, hslash, bind, Except.bind, pure, Except.pure] at h
      exact ⟨by simp, h.symm⟩
  · simp [hlocate, hentry, htarget, hgoal, bind, Except.bind, pure, Except.pure, throw, throwThe,
      MonadExceptOf.throw] at h
  · simp [hlocate, hentry, htarget, hgoal, bind, Except.bind, pure, Except.pure] at h
    exact ⟨by simp, h.symm⟩

/-- What is written has a name, since a path without one leads to a directory. -/
theorem exists_fileName?_of_write {after : FileTree} (h : tree.write path content = .ok after) :
    ∃ name, Path.fileName? path = some name := by
  cases hname : Path.fileName? path with
  | some name => exact ⟨name, rfl⟩
  | none =>
    obtain ⟨hlocate, -, hentry, -⟩ := write_eq_ok h
    rcases Path.parts_of_fileName?_eq_none hname with hparts | ⟨before, hparts⟩
    · rw [Path.place, hparts] at hentry
      exact absurd (entry?_nil tree) hentry
    · have hdirectories := (locate_eq_ok hlocate).2
      rw [hparts, ways_concat, List.dropLast_concat] at hdirectories
      have hplace : Path.place path = (before.foldl step []).dropLast := by
        rw [Path.place, hparts, List.foldl_append]
        rfl
      have hpassed := hdirectories _ (mem_ways_of_above (List.dropLast_prefix _))
      exact absurd (hplace ▸ hpassed) hentry

/-- What was written is there to be located. -/
theorem locate_of_write {after : FileTree} (h : tree.write path content = .ok after) :
    after.locate path = .ok (Path.place path) := by
  obtain ⟨hlocate, hslash, hentry, rfl⟩ := write_eq_ok h
  have hways := (locate_eq_ok hlocate).2.set hentry (.file content)
  have hwalk : FileTree.walk (tree.set (Path.place path) (.file content)) [] (Path.parts path)
      = .ok (Path.place path) := walk_eq_ok_iff.mpr ⟨rfl, hways⟩
  have hempty : path.isEmpty = false := by
    rw [Bool.eq_false_iff]
    intro hempty
    unfold locate at hlocate
    rw [if_pos hempty] at hlocate
    cases hlocate
  unfold locate
  rw [hempty, if_neg Bool.false_ne_true, hwalk, hslash]
  dsimp only
  split
  · rfl
  · rfl

theorem entry?_of_write {after : FileTree} (h : tree.write path content = .ok after) :
    after.entry? (Path.place path) = some (.file content) := by
  obtain ⟨-, -, hentry, rfl⟩ := write_eq_ok h
  have hroot : Path.place path ≠ [] := by
    intro hroot
    exact hentry (by rw [hroot, entry?_nil])
  exact entry?_set_self _ _ hroot

/-- What was written is read. -/
theorem read_of_write {after : FileTree} (h : tree.write path content = .ok after) :
    after.read path = .ok content :=
  read_of_locate (locate_of_write h) (entry?_of_write h)

/-- What was written is taken away. -/
theorem remove_of_write {after : FileTree} (h : tree.write path content = .ok after) :
    after.remove path = .ok (tree.erase (Path.place path)) := by
  rw [remove_of_locate (locate_of_write h), entry?_of_write h]
  obtain ⟨-, -, -, rfl⟩ := write_eq_ok h
  dsimp only
  rw [erase_set]

theorem read_congr {other : FileTree}
    (h : ∀ spot ∈ ways [] (Path.parts path), tree.entry? spot = other.entry? spot) :
    tree.read path = other.read path := by
  unfold FileTree.read
  rw [locate_congr h]
  rcases hlocate : other.locate path with cause | spot
  · rfl
  · have hspot := (locate_eq_ok hlocate).1
    have hentry : tree.entry? spot = other.entry? spot := h spot (hspot ▸ foldl_mem_ways _ _)
    simp only [bind, Except.bind, hentry]

/-- A write elsewhere leaves what was written. -/
theorem read_of_write_elsewhere {path' content' : String} {after after' : FileTree}
    (h : tree.write path content = .ok after) (h' : after.write path' content' = .ok after')
    (hne : Path.place path ≠ Path.place path') : after'.read path = .ok content := by
  have hread := read_of_write h
  obtain ⟨hlocate', hslash', hentry', rfl⟩ := write_eq_ok h'
  rw [← hread]
  refine read_congr fun spot hspot => entry?_set_of_ne _ _ ?_
  rintro rfl
  -- No directory stands where the other file goes, so it is not on the way to the first one.
  have hlocate : ∃ place, after.locate path = .ok place := by
    rcases hlocate : after.locate path with cause | place
    · unfold FileTree.read at hread
      rw [hlocate] at hread
      cases hread
    · exact ⟨place, rfl⟩
  obtain ⟨place, hlocate⟩ := hlocate
  have hdirectories := (locate_eq_ok hlocate).2
  have hlast := List.dropLast_concat_getLast (ways_ne_nil [] (Path.parts path))
  rw [getLast_ways] at hlast
  rw [← hlast, List.mem_append, List.mem_singleton] at hspot
  rcases hspot with hspot | hspot
  · exact hentry' (hdirectories _ hspot)
  · exact hne hspot.symm

end Operations

/-! ### An atomic write -/

section Update

variable {result : FileTree → Except FileError FileTree} {after : FileTree}

theorem run_update_of_ok (h : result tree = .ok after) :
    (update result).run tree = (.ok (), after) := by
  unfold update StateT.run
  simp only [h]

theorem run_update_of_error {cause : FileError} (h : result tree = .error cause) :
    (update result).run tree = (.error cause, tree) := by
  unfold update StateT.run
  simp only [h]

end Update

/-- An atomic write in steps: what was put together is moved, and it is removed where that fails. -/
theorem run_writeAtomic_steps (path content : String) (tree : FileTree) :
    (writeAtomic path content : StateM FileTree (Except FileError Unit)).run tree =
      match tree.write (stagingPath path) content with
      | .error cause => (.error cause, (tree.remove (stagingPath path)).toOption.getD tree)
      | .ok staged =>
        match staged.rename (stagingPath path) path with
        | .error cause => (.error cause, (staged.remove (stagingPath path)).toOption.getD staged)
        | .ok after => (.ok (), after) := by
  -- Whether or not there is something to remove, the cause is what is answered.
  have hremoved (tree : FileTree) (cause : FileError) :
      (do let _ ← remove (stagingPath path); return .error cause :
          StateM FileTree (Except FileError Unit)).run tree
        = (.error cause, (tree.remove (stagingPath path)).toOption.getD tree) := by
    rcases hremove : tree.remove (stagingPath path) with other | after
    · exact run_bind_eq (run_update_of_error hremove) _
    · exact run_bind_eq (run_update_of_ok hremove) _
  unfold writeAtomic
  rcases hwrite : tree.write (stagingPath path) content with cause | staged
  · refine (run_bind_eq (run_update_of_error hwrite) _).trans ?_
    dsimp only
    rw [pure_bind]
    exact hremoved tree cause
  · refine (run_bind_eq (run_update_of_ok hwrite) _).trans ?_
    dsimp only
    rcases hrename : staged.rename (stagingPath path) path with cause | after
    · exact (run_bind_eq (run_update_of_error hrename) _).trans (hremoved staged cause)
    · exact run_bind_eq (run_update_of_ok hrename) _

/-- Puts a file in its place in one step, and leaves nothing where it was put together. -/
def put (tree : FileTree) (base name content : String) : FileTree :=
  (tree.erase (Path.place base ++ [stagingName name])).set (Path.place base ++ [name])
    (.file content)

/-- An atomic write to a directory to which there is a way puts the file in its place, where no
directory stands in the way of the file or of the one beside it. -/
theorem run_writeAtomic (hname : Path.IsSegment name)
    (h : tree.AreDirectories (ways [] (Path.parts base))) (content : String) :
    (writeAtomic (Path.join base name) content : StateM FileTree (Except FileError Unit)).run tree =
      if tree.entry? (Path.place base ++ [stagingName name]) = some .directory then
        (.error .isADirectory, tree)
      else if tree.entry? (Path.place base ++ [name]) = some .directory then
        (.error .isADirectory, tree.erase (Path.place base ++ [stagingName name]))
      else (.ok (), put tree base name content) := by
  have hne : Path.place base ++ [name] ≠ Path.place base ++ [stagingName name] := by
    intro heq
    exact stagingName_ne name (by simpa using heq.symm)
  have hnonempty : Path.place base ++ [stagingName name] ≠ [] := by simp
  have hput : put tree base name content = (tree.erase (Path.place base ++ [stagingName name])).set
      (Path.place base ++ [name]) (.file content) := rfl
  have hstaging := locate_stagingPath hname h
  have hslash := endsInSlash_stagingPath base hname
  rw [run_writeAtomic_steps, write_of_locate hstaging hslash content]
  by_cases hdirectory : tree.entry? (Path.place base ++ [stagingName name]) = some .directory
  · rw [if_pos hdirectory, if_pos hdirectory]
    dsimp only
    rw [remove_of_locate hstaging, hdirectory]
    rfl
  rw [if_neg hdirectory, if_neg hdirectory]
  dsimp only
  generalize Path.place base ++ [stagingName name] = spot at *
  -- The way is still there, because no directory was at the place of the new file.
  have hways := h.set hdirectory (.file content)
  have hlocate : FileTree.locate (tree.set spot (.file content))
      (stagingPath (Path.join base name)) = .ok spot := by
    rw [locate_stagingPath hname hways, ← locate_stagingPath hname h, hstaging]
  have hread := read_of_locate hlocate (entry?_set_self tree (.file content) hnonempty)
  have hrename := rename_of_locate hread hlocate (locate_join hname hways)
    (Path.not_endsInSlash_join base hname)
  have htarget := entry?_set_of_ne tree (.file content) hne
  rw [hrename, htarget, erase_set]
  by_cases hblocked : tree.entry? (Path.place base ++ [name]) = some .directory
  · rw [if_pos hblocked, if_pos hblocked]
    dsimp only
    rw [remove_of_locate hlocate, entry?_set_self tree (.file content) hnonempty, erase_set]
    rfl
  · rw [if_neg hblocked, if_neg hblocked, hput]

/-! ### What a file that was put in its place changes -/

theorem entry?_put_self (tree : FileTree) (base name content : String) :
    FileTree.entry? (put tree base name content) (Path.place base ++ [name])
      = some (.file content) :=
  entry?_set_self _ _ (by simp)

theorem agreeBut_put {place : Place} {other : FileTree} (h : AgreeBut place tree other)
    (base name content : String) :
    AgreeBut place (put tree base name content) (put other base name content) :=
  (h.erase _).set _ _

/-- A file is read where it stands. -/
theorem read_join {content : String} (hname : Path.IsSegment name)
    (h : tree.AreDirectories (ways [] (Path.parts base)))
    (hentry : tree.entry? (Path.place base ++ [name]) = some (.file content)) :
    tree.read (Path.join base name) = .ok content :=
  read_of_locate (locate_join hname h) hentry

end FileStore

end ApiTools
