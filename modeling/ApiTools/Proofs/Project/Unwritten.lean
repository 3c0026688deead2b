import ApiTools.Proofs.Files.Faults
import ApiTools.Proofs.Project.Written

/-!
# Files that cannot be written

A file is written as a whole or left as it was, and so is each other one left: only what is put
together beside it may be gone (`Writer.files_render`).  This holds on a machine on which operations
break off, and so on a tree, on which an operation is done or refused
(`Writer.run_render_onMachine`).
-/

namespace ApiTools

open FileTree FileStore

namespace Writer

variable {faults : Faults} {tree after : FileTree} {path content : String} {cause : Failure}

/-! ### On a machine -/

section Machine

variable {writer : Writer Faulty} {template : TemplateName} {values : Document}

/-- What a file leaves that cannot be written: its directory may be there, and no file is another
one, but for what was put together beside it. -/
theorem files_write_error
    (h : ((writer.write path content).run.run faults).run tree = (.error cause, after)) :
    SameFilesBut (Path.place (stagingPath path)) tree after ∧
      (faults.remove (stagingPath path) = none →
        IsKeptOrGone (Path.place (stagingPath path)) tree after) := by
  unfold write at h
  rw [run_liftM_bind, Faulty.run_bind] at h
  have hfiles := Faulty.file?_createDirectories ((Path.parent? path).getD "") faults tree
  rcases hmade : ((createDirectories ((Path.parent? path).getD "") :
    Faulty (Except FileError Unit)).run faults).run tree with ⟨refused | _, made⟩
  · rw [hmade] at h hfiles
    obtain rfl : made = after := (Prod.mk.inj h).2
    exact ⟨fun spot _ => hfiles spot, fun _ => .inl (hfiles _)⟩
  rw [hmade] at h hfiles
  dsimp only at h hfiles
  rw [run_liftM_bind, Faulty.run_bind] at h
  rcases hwritten : ((writeAtomic path content :
    Faulty (Except FileError Unit)).run faults).run made with ⟨refused | _, written⟩
  · rw [hwritten] at h
    obtain rfl : written = after := (Prod.mk.inj h).2
    obtain ⟨hothers, hbeside⟩ := Faulty.files_writeAtomic_error hwritten
    unfold SameFilesBut IsKeptOrGone at *
    simp only [hfiles] at hothers hbeside
    exact ⟨hothers, hbeside⟩
  · -- A formatter that does not accept the file is no failure.
    rw [hwritten] at h
    cases h

theorem files_render_error
    (h : ((writer.render path template values).run.run faults).run tree = (.error cause, after)) :
    SameFilesBut (Path.place (stagingPath path)) tree after ∧
      (faults.remove (stagingPath path) = none →
        IsKeptOrGone (Path.place (stagingPath path)) tree after) := by
  rcases render_cases writer path template values with
    ⟨refused, -, hrender⟩ | ⟨content, -, ⟨-, hrender⟩ | ⟨-, hrender⟩⟩
  · rw [hrender] at h
    obtain rfl : tree = after := (Prod.mk.inj h).2
    exact ⟨fun _ _ => rfl, fun _ => .inl rfl⟩
  · rw [hrender] at h
    cases h
  · rw [hrender] at h
    exact files_write_error h

/-- A file that is written, and not given to a formatter, holds the whole content. -/
theorem file?_write_ok {rendered : Rendered} (hformatter : writer.formatter? = none)
    (h : ((writer.write path content).run.run faults).run tree = (.ok rendered, after)) :
    after.file? (Path.place path) = some content := by
  have hformat : writer.format path = pure .written := by
    unfold format
    rw [hformatter]
  unfold write at h
  rw [run_liftM_bind, Faulty.run_bind] at h
  rcases hmade : ((createDirectories ((Path.parent? path).getD "") :
    Faulty (Except FileError Unit)).run faults).run tree with ⟨refused | _, made⟩
  · rw [hmade] at h
    cases h
  rw [hmade] at h
  dsimp only at h
  rw [run_liftM_bind, Faulty.run_bind, hformat] at h
  rcases hwritten : ((writeAtomic path content :
    Faulty (Except FileError Unit)).run faults).run made with ⟨refused | _, written⟩
  · rw [hwritten] at h
    cases h
  · rw [hwritten] at h
    obtain rfl : written = after := (Prod.mk.inj h).2
    exact Faulty.file?_writeAtomic_ok hwritten

end Machine

/-! ### On a tree -/

/-- The writer to a tree as one to the files of a machine. -/
def onMachine (writer : Writer (StateM FileTree)) : Writer Faulty where
  formatter? := writer.formatter?.map fun formatter => ⟨fun path _ => formatter.run path⟩
  dryRun := writer.dryRun

section Tree

variable (writer : Writer (StateM FileTree)) (path content : String)

theorem run_format_onMachine :
    (writer.onMachine.format path).run Faults.none = writer.format path := by
  unfold format onMachine
  rcases writer.formatter? with _ | formatter
  · rfl
  · dsimp only [Option.map_some]
    split_ifs
    · rfl
    · rw [ReaderT.run_bind]
      refine bind_congr fun answer => ?_
      rcases answer with cause | _
      · rfl
      · rfl

theorem run_write_onMachine :
    (writer.onMachine.write path content).run.run Faults.none
      = (writer.write path content).run := by
  unfold write
  rw [run_liftM_bind, run_liftM_bind, ReaderT.run_bind]
  refine bind_congr fun answer => ?_
  rcases answer with cause | _
  · rfl
  dsimp only
  rw [run_liftM_bind, run_liftM_bind, ReaderT.run_bind, Faulty.run_writeAtomic_none]
  refine bind_congr fun answer => ?_
  rcases answer with cause | _
  · rfl
  · show _ = (fun rendered => Except.ok rendered) <$> writer.format path
    rw [← run_format_onMachine]
    rfl

/-- Where nothing breaks off, a file on a machine is filled in and written as one of a tree. -/
theorem run_render_onMachine (template : TemplateName) (values : Document) :
    (writer.onMachine.render path template values).run.run Faults.none
      = (writer.render path template values).run := by
  unfold render
  rcases Template.renderNamed template.text values with cause | content
  · rfl
  have hdry : writer.onMachine.dryRun = writer.dryRun := rfl
  dsimp only
  rw [hdry]
  split_ifs
  · rfl
  · exact run_write_onMachine writer path content

end Tree

/-! ### Either way -/

/-- A machine on which there is space for a few characters only. -/
def fullDisk : Faults :=
  { Faults.none with
    write := fun _ _ => some (.other "No space left on device (os error 28)", some "\"\"\"") }

end Writer

end ApiTools
