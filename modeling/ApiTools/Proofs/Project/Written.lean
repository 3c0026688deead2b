import ApiTools.Proofs.Files.Store
import ApiTools.Proofs.Project.Paths

/-!
# Writing the files of a project into a tree

`Writer.write_cases` says all that writing one file can do to a tree, where a formatter puts another
content into the file that it is given and does nothing else (`Writer.FormatsWithin`).  From it come
the two ways to reason about a whole project: a property that the single changes keep holds after
the project was written (`Writer.keeps_foldlM`), and without a formatter a place that no file goes
through plays no part in writing the project (`Writer.agree_foldlM`).
-/

namespace ApiTools

open FileTree FileStore

/-- Does the file lie in the directory, under the name?  It is not one in which others are put
together. -/
structure Artifact.IsAt (artifact : Artifact) (base name : String) : Prop where
  path : artifact.path = Path.join base name
  segment : Path.IsSegment name
  plain : ∀ other, name ≠ stagingName other

namespace Writer

variable {writer : Writer (StateM FileTree)} {report after : EmitReport} {artifact : Artifact}
  {artifacts : List Artifact} {tree tree' other : FileTree} {base name content : String}
  {place spot : Place} {Same : String → String → Prop}

/-! ### Formatters -/

/-- Does the formatter, if there is one, only put another content into the file that it is given, to
which the one before is related? -/
structure FormatsWithin (writer : Writer (StateM FileTree)) (Same : String → String → Prop) :
    Prop where
  refl : ∀ content, Same content content
  format : ∀ formatter ∈ writer.formatter?, ∀ (tree : FileTree) (path content : String),
    ∃ content', Same content content' ∧
      ((formatter.run path).run (tree.set (Path.place path) (.file content))).2
        = tree.set (Path.place path) (.file content')

/-- Without a formatter the content stays. -/
theorem formatsWithin_of_none (h : writer.formatter? = none) : writer.FormatsWithin Eq := by
  refine ⟨fun _ => rfl, fun formatter hformatter => ?_⟩
  rw [h] at hformatter
  cases hformatter

theorem run_format_of_none (h : writer.formatter? = none) (path : String) (tree : FileTree) :
    (writer.format path).run tree = (.written, tree) := by
  unfold format
  rw [h]
  rfl

/-- Whatever is said of the format, the file has another content at most. -/
theorem run_format (hformat : writer.FormatsWithin Same) (path content : String) (tree : FileTree) :
    ∃ rendered content', Same content content' ∧
      (writer.format path).run (tree.set (Path.place path) (.file content))
        = (rendered, tree.set (Path.place path) (.file content')) := by
  rcases hformatter : writer.formatter? with _ | formatter
  · exact ⟨.written, content, hformat.refl content, run_format_of_none hformatter path _⟩
  by_cases hsupported : Formatter.supports path = true
  · obtain ⟨content', hsame, hrun⟩ := hformat.format formatter hformatter tree path content
    have hsteps : (writer.format path).run (tree.set (Path.place path) (.file content))
        = match (formatter.run path).run (tree.set (Path.place path) (.file content)) with
          | (.ok (), after) => (.written, after)
          | (.error cause, after) => (.unformatted cause, after) := by
      unfold format
      rw [hformatter]
      simp only [hsupported, Bool.not_true, if_neg Bool.false_ne_true, StateT.run_bind]
      rcases (formatter.run path).run (tree.set (Path.place path) (.file content)) with
        ⟨cause | done, after⟩ <;> rfl
    rw [hsteps]
    rcases hresult : (formatter.run path).run (tree.set (Path.place path) (.file content)) with
      ⟨cause | done, after⟩
    · rw [hresult] at hrun
      exact ⟨.unformatted cause, content', hsame, by rw [← hrun]⟩
    · rw [hresult] at hrun
      exact ⟨.written, content', hsame, by rw [← hrun]⟩
  · refine ⟨.written, content, hformat.refl content, ?_⟩
    unfold format
    rw [hformatter]
    simp only [hsupported]
    rfl

/-! ### One file -/

/-- What comes of writing a file. -/
inductive Outcome (tree : FileTree) (base name content : String) :
    Except Failure Rendered × FileTree → Prop
  /-- Its directory cannot be made. -/
  | unmade {cause : FileError} (hmade : tree.createDirectories base = .error cause) :
    Outcome tree base name content (.error (.file cause), tree)
  /-- A directory stands where the file is to be put together. -/
  | blockedBeside {made : FileTree} (hmade : tree.createDirectories base = .ok made)
      (hstaging : made.entry? (Path.place base ++ [stagingName name]) = some .directory) :
    Outcome tree base name content (.error (.file .isADirectory), made)
  /-- A directory stands where the file is to go. -/
  | blocked {made : FileTree} (hmade : tree.createDirectories base = .ok made)
      (hstaging : made.entry? (Path.place base ++ [stagingName name]) ≠ some .directory)
      (htarget : made.entry? (Path.place base ++ [name]) = some .directory) :
    Outcome tree base name content
      (.error (.file .isADirectory), made.erase (Path.place base ++ [stagingName name]))
  | written {made : FileTree} {rendered : Rendered}
      (hmade : tree.createDirectories base = .ok made)
      (hstaging : made.entry? (Path.place base ++ [stagingName name]) ≠ some .directory)
      (htarget : made.entry? (Path.place base ++ [name]) ≠ some .directory) :
    Outcome tree base name content (.ok rendered, put made base name content)

theorem createDirectories_parent? (tree : FileTree) (base : String) (hname : Path.IsSegment name) :
    tree.createDirectories ((Path.parent? (Path.join base name)).getD "")
      = tree.createDirectories base := by
  unfold FileTree.createDirectories
  rw [Path.parts_parent?_join base hname]

/-- Writing a file in steps: the directory, the file and its format. -/
theorem run_write_steps (writer : Writer (StateM FileTree)) (path content : String)
    (tree : FileTree) :
    (writer.write path content).run.run tree =
      match tree.createDirectories ((Path.parent? path).getD "") with
      | .error cause => (.error (.file cause), tree)
      | .ok made =>
        match (writeAtomic path content : StateM FileTree (Except FileError Unit)).run made with
        | (.error cause, after) => (.error (.file cause), after)
        | (.ok (), after) =>
          (.ok ((writer.format path).run after).1, ((writer.format path).run after).2) := by
  unfold write
  rw [run_lift_bind]
  rcases hmade : tree.createDirectories ((Path.parent? path).getD "") with cause | made
  · have hrun : (FileStore.createDirectories ((Path.parent? path).getD "") :
        StateM FileTree (Except FileError Unit)).run tree = (.error cause, tree) := by
      simp [FileStore.createDirectories, update, hmade, StateT.run]
    rw [hrun]
    rfl
  · have hrun : (FileStore.createDirectories ((Path.parent? path).getD "") :
        StateM FileTree (Except FileError Unit)).run tree = (.ok (), made) := by
      simp [FileStore.createDirectories, update, hmade, StateT.run]
    rw [hrun]
    dsimp only
    rw [run_lift_bind]
    rcases (writeAtomic path content : StateM FileTree (Except FileError Unit)).run made
      with ⟨cause | done, after⟩ <;> rfl

/-- What comes of writing a file depends on the tree with its directory only. -/
theorem run_write_congr {made : FileTree} (writer : Writer (StateM FileTree))
    (hname : Path.IsSegment name) (h : tree.createDirectories base = .ok made)
    (h' : other.createDirectories base = .ok made) (content : String) :
    (writer.write (Path.join base name) content).run.run tree
      = (writer.write (Path.join base name) content).run.run other := by
  rw [run_write_steps, run_write_steps, createDirectories_parent? tree base hname, createDirectories_parent? other base hname, h, h']

theorem write_cases (hformat : writer.FormatsWithin Same) (hname : Path.IsSegment name)
    (content : String) (tree : FileTree) :
    ∃ content', Same content content' ∧ Outcome tree base name content'
      ((writer.write (Path.join base name) content).run.run tree) := by
  rw [run_write_steps, createDirectories_parent? tree base hname]
  rcases hmade : tree.createDirectories base with cause | made
  · exact ⟨content, hformat.refl content, .unmade hmade⟩
  dsimp only
  rw [run_writeAtomic hname (areDirectories_createDirectories hmade) content]
  by_cases hstaging : made.entry? (Path.place base ++ [stagingName name]) = some .directory
  · rw [if_pos hstaging]
    exact ⟨content, hformat.refl content, .blockedBeside hmade hstaging⟩
  rw [if_neg hstaging]
  by_cases htarget : made.entry? (Path.place base ++ [name]) = some .directory
  · rw [if_pos htarget]
    exact ⟨content, hformat.refl content, .blocked hmade hstaging htarget⟩
  · obtain ⟨rendered, content', hsame, hrun⟩ := run_format hformat (Path.join base name) content
      (made.erase (Path.place base ++ [stagingName name]))
    rw [Path.place_join base hname] at hrun
    rw [if_neg htarget]
    unfold put
    dsimp only
    rw [hrun]
    exact ⟨content', hsame, .written hmade hstaging htarget⟩

/-! ### What is kept -/

/-- Is a property of trees kept by all that writing a file may change? -/
structure IsKept (P : FileTree → Prop) (base name : String) : Prop where
  make : ∀ t, ∀ spot ∈ ways [] (Path.parts base), t.entry? spot = none → P t →
    P (t.set spot .directory)
  erase : ∀ t, t.entry? (Path.place base ++ [stagingName name]) ≠ some .directory → P t →
    P (t.erase (Path.place base ++ [stagingName name]))
  set : ∀ t content, t.entry? (Path.place base ++ [name]) ≠ some .directory → P t →
    P (t.set (Path.place base ++ [name]) (.file content))

theorem target_ne_staging (base name : String) :
    Path.place base ++ [name] ≠ Path.place base ++ [stagingName name] := by
  intro heq
  exact stagingName_ne name (by simpa using heq.symm)

variable {P : FileTree → Prop}

theorem IsKept.createDirectories {made : FileTree} (h : IsKept P base name) (hP : P tree)
    (hmade : tree.createDirectories base = .ok made) : P made :=
  makeDirectories_induct h.make hP hmade

theorem IsKept.put (h : IsKept P base name) (hP : P tree)
    (hstaging : tree.entry? (Path.place base ++ [stagingName name]) ≠ some .directory)
    (htarget : tree.entry? (Path.place base ++ [name]) ≠ some .directory) (content : String) :
    P (put tree base name content) := by
  refine h.set _ content ?_ (h.erase tree hstaging hP)
  rw [entry?_erase_of_ne _ (target_ne_staging base name)]
  exact htarget

theorem IsKept.outcome (h : IsKept P base name) (hP : P tree)
    {result : Except Failure Rendered × FileTree} (houtcome : Outcome tree base name content result) :
    P result.2 := by
  cases houtcome with
  | unmade hmade => exact hP
  | blockedBeside hmade hstaging => exact h.createDirectories hP hmade
  | blocked hmade hstaging htarget => exact h.erase _ hstaging (h.createDirectories hP hmade)
  | written hmade hstaging htarget =>
    exact h.put (h.createDirectories hP hmade) hstaging htarget content

/-- A file that is filled in is written, except in a dry run. -/
theorem render_cases {m : Type → Type} [Monad m] [FileStore m] (writer : Writer m) (path : String)
    (template : TemplateName) (values : Document) :
    (∃ cause, Template.renderNamed template.text values = .error cause ∧
        writer.render path template values = throw (.template cause)) ∨
      ∃ content, Template.renderNamed template.text values = .ok content ∧
        (writer.dryRun = true ∧ writer.render path template values = pure .planned ∨
          writer.dryRun = false ∧ writer.render path template values = writer.write path content) := by
  unfold render
  rcases hcontent : Template.renderNamed template.text values with cause | content
  · exact .inl ⟨cause, rfl, rfl⟩
  · refine .inr ⟨content, rfl, ?_⟩
    cases hdry : writer.dryRun
    · exact .inr ⟨rfl, rfl⟩
    · exact .inl ⟨rfl, rfl⟩

theorem keeps_render (hformat : writer.FormatsWithin Same) (hname : Path.IsSegment name)
    (h : IsKept P base name) (hP : P tree) (template : TemplateName) (values : Document) :
    P ((writer.render (Path.join base name) template values).run.run tree).2 := by
  rcases render_cases writer (Path.join base name) template values with
    ⟨cause, -, hrender⟩ | ⟨content, -, ⟨-, hrender⟩ | ⟨-, hrender⟩⟩
  · rw [hrender]
    exact hP
  · rw [hrender]
    exact hP
  · rw [hrender]
    obtain ⟨content', -, houtcome⟩ := write_cases hformat hname content tree
    exact h.outcome hP houtcome

/-- The tree after a file of a project is the one after it was filled in. -/
theorem snd_run_emitArtifact (writer : Writer (StateM FileTree)) (report : EmitReport)
    (artifact : Artifact) (tree : FileTree) :
    ((writer.emitArtifact report artifact).run.run tree).2 =
      ((writer.render artifact.path artifact.template (.object artifact.values)).run.run tree).2 := by
  rw [run_emitArtifact]
  split <;> simp [*]

theorem keeps_emitArtifact (hformat : writer.FormatsWithin Same) (hat : artifact.IsAt base name)
    (h : IsKept P base name) (hP : P tree) (report : EmitReport) :
    P ((writer.emitArtifact report artifact).run.run tree).2 := by
  rw [snd_run_emitArtifact, hat.path]
  exact keeps_render hformat hat.segment h hP _ _

/-- What the files of a project keep one by one holds after all of them. -/
theorem keeps_foldlM (hformat : writer.FormatsWithin Same)
    (h : ∀ artifact ∈ artifacts, ∃ base name, artifact.IsAt base name ∧ IsKept P base name)
    (hP : P tree) (report : EmitReport) :
    P ((artifacts.foldlM writer.emitArtifact report).run.run tree).2 := by
  induction artifacts generalizing report tree with
  | nil => exact hP
  | cons artifact rest ih =>
    rw [List.forall_mem_cons] at h
    obtain ⟨base, name, hat, hkept⟩ := h.1
    have hfirst := keeps_emitArtifact hformat hat hkept hP report
    rw [List.foldlM_cons, ExceptT.run_bind, StateT.run_bind]
    rcases hrun : (writer.emitArtifact report artifact).run.run tree with ⟨cause | next, between⟩
    · rw [hrun] at hfirst
      exact hfirst
    · rw [hrun] at hfirst
      exact ih h.2 hfirst next

/-! ### Properties that are kept -/

/-- Directories stay. -/
theorem isKept_directory (spot : Place) (base name : String) :
    IsKept (fun t => t.entry? spot = some .directory) base name where
  make t missing _ hnone ht := by
    have hne : spot ≠ missing := by
      rintro rfl
      rw [ht] at hnone
      cases hnone
    rw [entry?_set_of_ne _ _ hne]
    exact ht
  erase t hstaging ht := by
    have hne : spot ≠ Path.place base ++ [stagingName name] := by
      rintro rfl
      exact hstaging ht
    rwa [entry?_erase_of_ne _ hne]
  set t content htarget ht := by
    have hne : spot ≠ Path.place base ++ [name] := by
      rintro rfl
      exact htarget ht
    rwa [entry?_set_of_ne _ _ hne]

/-- What stands at a place that is neither that of the file nor that of the one beside it stays. -/
theorem isKept_entry {entry : FileEntry} (hstaging : spot ≠ Path.place base ++ [stagingName name])
    (htarget : spot ≠ Path.place base ++ [name]) :
    IsKept (fun t => t.entry? spot = some entry) base name where
  make t missing _ hnone ht := by
    have hne : spot ≠ missing := by
      rintro rfl
      rw [ht] at hnone
      cases hnone
    rw [entry?_set_of_ne _ _ hne]
    exact ht
  erase t _ ht := by rwa [entry?_erase_of_ne _ hstaging]
  set t content _ ht := by rwa [entry?_set_of_ne _ _ htarget]

/-- Files stay files, except for the one beside the file. -/
theorem isKept_file (hstaging : spot ≠ Path.place base ++ [stagingName name]) :
    IsKept (fun t => ∃ content, t.entry? spot = some (.file content)) base name where
  make t missing _ hnone := by
    rintro ⟨content, ht⟩
    have hne : spot ≠ missing := by
      rintro rfl
      rw [ht] at hnone
      cases hnone
    exact ⟨content, by rwa [entry?_set_of_ne _ _ hne]⟩
  erase t _ := by
    rintro ⟨content, ht⟩
    exact ⟨content, by rwa [entry?_erase_of_ne _ hstaging]⟩
  set t content _ := by
    rintro ⟨other, ht⟩
    by_cases htarget : spot = Path.place base ++ [name]
    · rw [htarget]
      exact ⟨content, entry?_set_self _ _ (by simp)⟩
    · exact ⟨other, by rwa [entry?_set_of_ne _ _ htarget]⟩

/-! ### What plays no part -/

/-- Does a place lie aside from all that writing a file touches? -/
structure IsAside (place : Place) (base name : String) : Prop where
  way : place ∉ ways [] (Path.parts base)
  staging : place ≠ Path.place base ++ [stagingName name]
  target : place ≠ Path.place base ++ [name]

/-- Do two runs have the same result, and trees that agree but for the place? -/
def SameRun {α : Type} (place : Place) (run run' : α × FileTree) : Prop :=
  run.1 = run'.1 ∧ AgreeBut place run.2 run'.2

theorem write_agree (hformatter : writer.formatter? = none) (hname : Path.IsSegment name)
    (haside : IsAside place base name) (h : AgreeBut place tree other) (content : String) :
    SameRun place ((writer.write (Path.join base name) content).run.run tree)
      ((writer.write (Path.join base name) content).run.run other) := by
  have hsame := h.createDirectories haside.way
  rw [run_write_steps, run_write_steps, createDirectories_parent? tree base hname,
    createDirectories_parent? other base hname]
  simp only [run_format_of_none hformatter]
  generalize hmade : tree.createDirectories base = made at hsame
  generalize hmade' : other.createDirectories base = made' at hsame
  cases hsame with
  | error cause => exact ⟨rfl, h⟩
  | @ok made made' hagree =>
    dsimp only
    rw [run_writeAtomic hname (areDirectories_createDirectories hmade),
      run_writeAtomic hname (areDirectories_createDirectories hmade'),
      hagree _ (Ne.symm haside.staging), hagree _ (Ne.symm haside.target)]
    by_cases hstaging : made'.entry? (Path.place base ++ [stagingName name]) = some .directory
    · rw [if_pos hstaging, if_pos hstaging]
      exact ⟨rfl, hagree⟩
    rw [if_neg hstaging, if_neg hstaging]
    by_cases htarget : made'.entry? (Path.place base ++ [name]) = some .directory
    · rw [if_pos htarget, if_pos htarget]
      exact ⟨rfl, hagree.erase _⟩
    · rw [if_neg htarget, if_neg htarget]
      exact ⟨rfl, agreeBut_put hagree base name content⟩

theorem render_agree (hformatter : writer.formatter? = none) (hname : Path.IsSegment name)
    (haside : IsAside place base name) (h : AgreeBut place tree other) (template : TemplateName)
    (values : Document) :
    SameRun place ((writer.render (Path.join base name) template values).run.run tree)
      ((writer.render (Path.join base name) template values).run.run other) := by
  rcases render_cases writer (Path.join base name) template values with
    ⟨cause, -, hrender⟩ | ⟨content, -, ⟨-, hrender⟩ | ⟨-, hrender⟩⟩
  · rw [hrender]
    exact ⟨rfl, h⟩
  · rw [hrender]
    exact ⟨rfl, h⟩
  · rw [hrender]
    exact write_agree hformatter hname haside h content

theorem emitArtifact_agree (hformatter : writer.formatter? = none) (hat : artifact.IsAt base name)
    (haside : IsAside place base name) (h : AgreeBut place tree other) (report : EmitReport) :
    SameRun place ((writer.emitArtifact report artifact).run.run tree)
      ((writer.emitArtifact report artifact).run.run other) := by
  have hrender := render_agree hformatter hat.segment haside h artifact.template
    (.object artifact.values)
  rw [← hat.path] at hrender
  rw [run_emitArtifact, run_emitArtifact]
  generalize (writer.render artifact.path artifact.template
    (.object artifact.values)).run.run tree = run at hrender ⊢
  generalize (writer.render artifact.path artifact.template
    (.object artifact.values)).run.run other = run' at hrender ⊢
  obtain ⟨result, between⟩ := run
  obtain ⟨result', between'⟩ := run'
  obtain ⟨rfl, hagree⟩ : result = result' ∧ AgreeBut place between between' := hrender
  cases result <;> exact ⟨rfl, hagree⟩

/-- A place aside from all files plays no part in writing them. -/
theorem agree_foldlM (hformatter : writer.formatter? = none)
    (haside : ∀ artifact ∈ artifacts, ∃ base name, artifact.IsAt base name ∧
      IsAside place base name)
    (h : AgreeBut place tree other) (report : EmitReport) :
    SameRun place ((artifacts.foldlM writer.emitArtifact report).run.run tree)
      ((artifacts.foldlM writer.emitArtifact report).run.run other) := by
  induction artifacts generalizing report tree other with
  | nil => exact ⟨rfl, h⟩
  | cons artifact rest ih =>
    rw [List.forall_mem_cons] at haside
    obtain ⟨base, name, hat, hfirst⟩ := haside.1
    have hartifact := emitArtifact_agree hformatter hat hfirst h report
    rw [List.foldlM_cons, ExceptT.run_bind, StateT.run_bind, StateT.run_bind]
    generalize (writer.emitArtifact report artifact).run.run tree = run at hartifact ⊢
    generalize (writer.emitArtifact report artifact).run.run other = run' at hartifact ⊢
    obtain ⟨result, between⟩ := run
    obtain ⟨result', between'⟩ := run'
    obtain ⟨rfl, hagree⟩ : result = result' ∧ AgreeBut place between between' := hartifact
    cases result with
    | error cause => exact ⟨rfl, hagree⟩
    | ok next => exact ih haside.2 hagree next

/-! ### Files that were written -/

/-- A file of a project was written, or it could fail and did. -/
theorem emitArtifact_cases (hformat : writer.FormatsWithin Same) (hdry : writer.dryRun = false)
    (hat : artifact.IsAt base name)
    (h : (writer.emitArtifact report artifact).run.run tree = (.ok after, tree')) :
    (∃ content content' made rendered,
        Template.renderNamed artifact.template.text (.object artifact.values) = .ok content ∧
        Same content content' ∧ tree.createDirectories base = .ok made ∧
        made.entry? (Path.place base ++ [stagingName name]) ≠ some .directory ∧
        made.entry? (Path.place base ++ [name]) ≠ some .directory ∧
        tree' = put made base name content' ∧ after = report.record artifact.path rendered) ∨
      (artifact.isEssential = false ∧ ∃ reason,
        after = { report with failed := report.failed ++ [(artifact.path, reason)] }) := by
  rcases emitArtifact_eq_ok h with ⟨rendered, hrun, rfl⟩ | ⟨cause, -, hessential, rfl⟩
  · rcases render_cases writer artifact.path artifact.template (.object artifact.values) with
      ⟨cause, -, hrender⟩ | ⟨content, hcontent, ⟨hdry', -⟩ | ⟨-, hrender⟩⟩
    · rw [hrender] at hrun
      cases hrun
    · rw [hdry] at hdry'
      cases hdry'
    · obtain ⟨content', hsame, houtcome⟩ := write_cases hformat hat.segment content tree
      rw [← hat.path, ← hrender, hrun] at houtcome
      cases houtcome with
      | written hmade hstaging htarget =>
        exact .inl ⟨content, content', _, rendered, hcontent, hsame, hmade, hstaging, htarget, rfl,
          rfl⟩
  · exact .inr ⟨hessential, _, rfl⟩

/-- The file stands in its place, and there is a way to it. -/
structure Stands (tree : FileTree) (base name content : String) : Prop where
  way : tree.AreDirectories (ways [] (Path.parts base))
  file : tree.entry? (Path.place base ++ [name]) = some (.file content)

theorem Stands.read (h : Stands tree base name content) (hname : Path.IsSegment name) :
    tree.read (Path.join base name) = .ok content :=
  read_join hname h.way h.file

/-- A file that was put in its place stands there. -/
theorem stands_put {made : FileTree} (hmade : tree.createDirectories base = .ok made)
    (hstaging : made.entry? (Path.place base ++ [stagingName name]) ≠ some .directory)
    (htarget : made.entry? (Path.place base ++ [name]) ≠ some .directory) (content : String) :
    Stands (put made base name content) base name content := by
  refine ⟨fun spot hspot => ?_, entry?_put_self made base name content⟩
  have hdirectory := areDirectories_createDirectories hmade spot hspot
  exact (isKept_directory spot base name).put hdirectory hstaging htarget content

theorem target_ne_staging_of_isAt {base' name' : String} (hat : artifact.IsAt base name) :
    Path.place base ++ [name] ≠ Path.place base' ++ [stagingName name'] := by
  intro heq
  have hlast := congrArg List.getLast? heq
  rw [List.getLast?_concat, List.getLast?_concat] at hlast
  exact hat.plain name' (Option.some.inj hlast)

/-- A way stays a way. -/
theorem way_foldlM (hformat : writer.FormatsWithin Same)
    (hat : ∀ artifact ∈ artifacts, ∃ base name, artifact.IsAt base name) {places : List Place}
    (h : tree.AreDirectories places) (report : EmitReport) :
    FileTree.AreDirectories ((artifacts.foldlM writer.emitArtifact report).run.run tree).2
      places := by
  intro spot hspot
  refine keeps_foldlM (P := fun t => t.entry? spot = some .directory) hformat ?_ (h spot hspot)
    report
  intro artifact hartifact
  obtain ⟨base, name, hbase⟩ := hat artifact hartifact
  exact ⟨base, name, hbase, isKept_directory spot base name⟩

/-- A file that was written stays where no other file of the project goes. -/
theorem stands_foldlM (hformat : writer.FormatsWithin Same) (hfirst : artifact.IsAt base name)
    (hat : ∀ other ∈ artifacts, ∃ base' name', other.IsAt base' name' ∧
      Path.place base ++ [name] ≠ Path.place base' ++ [name'])
    (h : Stands tree base name content) (report : EmitReport) :
    Stands ((artifacts.foldlM writer.emitArtifact report).run.run tree).2 base name content := by
  refine ⟨way_foldlM hformat (fun other hother => ?_) h.way report, ?_⟩
  · obtain ⟨base', name', hbase, -⟩ := hat other hother
    exact ⟨base', name', hbase⟩
  · refine keeps_foldlM (P := fun t => t.entry? (Path.place base ++ [name]) = some (.file content))
      hformat (fun other hother => ?_) h.file report
    obtain ⟨base', name', hbase, hne⟩ := hat other hother
    exact ⟨base', name', hbase, isKept_entry (target_ne_staging_of_isAt hfirst) hne⟩

/-- Where a file stood there stands one. -/
theorem exists_stands_foldlM (hformat : writer.FormatsWithin Same)
    (hfirst : artifact.IsAt base name)
    (hat : ∀ other ∈ artifacts, ∃ base' name', other.IsAt base' name')
    (h : Stands tree base name content) (report : EmitReport) :
    ∃ content', Stands ((artifacts.foldlM writer.emitArtifact report).run.run tree).2 base name
      content' := by
  have hkept : ∀ other ∈ artifacts, ∃ base' name', other.IsAt base' name' ∧
      IsKept (fun t => ∃ content, t.entry? (Path.place base ++ [name]) = some (.file content)) base'
        name' := by
    intro other hother
    obtain ⟨base', name', hbase⟩ := hat other hother
    exact ⟨base', name', hbase, isKept_file (target_ne_staging_of_isAt hfirst)⟩
  obtain ⟨content', hcontent⟩ := keeps_foldlM hformat hkept ⟨content, h.file⟩ report
  exact ⟨content', way_foldlM hformat hat h.way report, hcontent⟩

/-- Every file that is listed stands in its place. -/
theorem exists_stands_of_mem_files (hformat : writer.FormatsWithin Same)
    (hdry : writer.dryRun = false)
    (hat : ∀ artifact ∈ artifacts, ∃ base name, artifact.IsAt base name)
    (h : (artifacts.foldlM writer.emitArtifact report).run.run tree = (.ok after, tree'))
    {path : String} (hpath : path ∈ after.files) :
    path ∈ report.files ∨ ∃ artifact ∈ artifacts, ∃ base name content, artifact.IsAt base name ∧
      path = Path.join base name ∧ Stands tree' base name content := by
  induction artifacts generalizing report tree with
  | nil =>
    cases h
    exact .inl hpath
  | cons artifact rest ih =>
    rw [List.forall_mem_cons] at hat
    rw [List.foldlM_cons] at h
    obtain ⟨next, between, hartifact, hrest⟩ := run_bind_ok h
    have hlater := ih hat.2 hrest
    rcases hlater with hmem | ⟨other, hother, hstands⟩
    · obtain ⟨base, name, hbase⟩ := hat.1
      rcases emitArtifact_cases hformat hdry hbase hartifact with
        ⟨-, content, made, rendered, -, -, hmade, hstaging, htarget, rfl, rfl⟩ | ⟨-, reason, rfl⟩
      · rw [files_record, List.mem_append, List.mem_singleton] at hmem
        rcases hmem with hmem | rfl
        · exact .inl hmem
        · obtain ⟨content', hcontent⟩ := exists_stands_foldlM hformat hbase hat.2
            (stands_put hmade hstaging htarget content) (report.record artifact.path rendered)
          rw [hrest] at hcontent
          exact .inr ⟨artifact, List.mem_cons_self .., base, name, content', hbase, hbase.path,
            hcontent⟩
      · exact .inl hmem
    · exact .inr ⟨other, List.mem_cons_of_mem _ hother, hstands⟩

/-- An essential file stands in its place as it was filled in and then formatted, where no later file
goes there. -/
theorem stands_of_isEssential {front rest : List Artifact} (hformat : writer.FormatsWithin Same)
    (hdry : writer.dryRun = false) (hessential : artifact.isEssential = true)
    (hfirst : artifact.IsAt base name)
    (hat : ∀ other ∈ rest, ∃ base' name', other.IsAt base' name' ∧
      Path.place base ++ [name] ≠ Path.place base' ++ [name'])
    (h : ((front ++ artifact :: rest).foldlM writer.emitArtifact report).run.run tree
      = (.ok after, tree')) :
    ∃ content content',
      Template.renderNamed artifact.template.text (.object artifact.values) = .ok content ∧
      Same content content' ∧ Stands tree' base name content' := by
  rw [List.foldlM_append] at h
  obtain ⟨before, between, -, h⟩ := run_bind_ok h
  rw [List.foldlM_cons] at h
  obtain ⟨next, written, hartifact, hrest⟩ := run_bind_ok h
  rcases emitArtifact_cases hformat hdry hfirst hartifact with
    ⟨content, content', made, rendered, hcontent, hsame, hmade, hstaging, htarget, rfl, rfl⟩ |
      ⟨hnot, -⟩
  · have hstands := stands_foldlM hformat hfirst hat
      (stands_put hmade hstaging htarget content') (before.record artifact.path rendered)
    rw [hrest] at hstands
    exact ⟨content, content', hcontent, hsame, hstands⟩
  · rw [hessential] at hnot
    cases hnot

end Writer

/-! ### The files of a plan -/

namespace ProjectPlan

variable {plan : ProjectPlan} {artifact : Artifact} {names : List String} {spot : Place}

/-- The files of a project that are no modules. -/
def otherFiles : List String := ["pyproject.toml", ".env.example", "README.md"]

/-- The directories of a project. -/
def directories (plan : ProjectPlan) : List String :=
  [plan.names.package, plan.names.agentPackage, "api", "models", "tools"]

theorem getLast?_moduleFile (stem : String) : (stem ++ ".py").toList.getLast? = some 'y' := by
  rw [String.toList_append, List.getLast?_append]
  rfl

theorem getLast?_of_mem_moduleFileNames {stems : List String} {file : String}
    (h : file ∈ moduleFileNames stems) : file.toList.getLast? = some 'y' := by
  rcases List.mem_append.mp h with h | h
  · obtain ⟨stem, -, rfl⟩ := List.mem_map.mp h
    exact getLast?_moduleFile stem
  · rw [List.mem_singleton.mp h]
    rfl

theorem exists_of_mem_outerNames (h : names ∈ plan.outerNames) :
    ∃ directories name, names = directories ++ [name] ∧
      (∀ directory ∈ directories, directory ∈ plan.directories) ∧
      (name.toList.getLast? = some 'y' ∨ name ∈ otherFiles) := by
  have hpackage : ∀ directory ∈ [plan.names.package], directory ∈ plan.directories := by
    simp [directories]
  have hagent : ∀ directory ∈ [plan.names.agentPackage], directory ∈ plan.directories := by
    simp [directories]
  have hroot : ∀ directory ∈ ([] : List String), directory ∈ plan.directories := by simp
  unfold outerNames at h
  rcases List.mem_append.mp h with h | h
  · rcases List.mem_pair.mp h with rfl | rfl
    · exact ⟨_, "server.py", rfl, hpackage, .inl rfl⟩
    · exact ⟨_, "__init__.py", rfl, hpackage, .inl rfl⟩
  rcases List.mem_cons.mp h with rfl | h
  · exact ⟨[], "pyproject.toml", rfl, hroot, .inr (by decide)⟩
  cases hagentWanted : plan.settings.generateAgent
  · rw [hagentWanted] at h
    rcases List.mem_pair.mp h with rfl | rfl
    · exact ⟨[], ".env.example", rfl, hroot, .inr (by decide)⟩
    · exact ⟨[], "README.md", rfl, hroot, .inr (by decide)⟩
  · rw [hagentWanted] at h
    rcases List.mem_pair.mp h with rfl | rfl
    · exact ⟨_, "__init__.py", rfl, hagent, .inl rfl⟩
    · exact ⟨_, "prompts.py", rfl, hagent, .inl rfl⟩

/-- A file of a plan is a module or one of the others, and lies in one of its directories. -/
theorem exists_of_mem_fileNames (h : names ∈ plan.fileNames) :
    ∃ directories name, names = directories ++ [name] ∧
      (∀ directory ∈ directories, directory ∈ plan.directories) ∧
      (name.toList.getLast? = some 'y' ∨ name ∈ otherFiles) := by
  have hin : ∀ (directory : String) (files : List String), directory ∈ plan.directories →
      (∀ file ∈ files, file.toList.getLast? = some 'y') → names ∈ plan.namesIn directory files →
      ∃ directories name, names = directories ++ [name] ∧
        (∀ directory ∈ directories, directory ∈ plan.directories) ∧
        (name.toList.getLast? = some 'y' ∨ name ∈ otherFiles) := by
    intro directory files hdirectory hfiles hmem
    obtain ⟨file, hfile, rfl⟩ := List.mem_map.mp hmem
    refine ⟨[plan.names.package, directory], file, rfl, ?_, .inl (hfiles file hfile)⟩
    rw [List.forall_mem_cons, List.forall_mem_singleton]
    exact ⟨List.mem_cons_self .., hdirectory⟩
  have hmodels : ∀ file ∈ moduleFileNames plan.modelStems, file.toList.getLast? = some 'y' :=
    fun _ => getLast?_of_mem_moduleFileNames
  unfold fileNames at h
  rw [List.mem_append, List.mem_append, List.mem_append] at h
  rcases h with ((h | h) | h) | h
  · exact hin _ _ (by simp [directories]) (by decide) h
  · exact hin _ _ (by simp [directories]) hmodels h
  · exact hin _ _ (by simp [directories]) (fun _ => getLast?_of_mem_moduleFileNames) h
  · exact exists_of_mem_outerNames h

theorem pathOf_concat (plan : ProjectPlan) (directories : List String) (name : String) :
    plan.pathOf (directories ++ [name]) = Path.join (plan.pathOf directories) name := by
  unfold pathOf
  rw [List.foldl_append]
  rfl

theorem plain_of_getLast? {name : String}
    (h : name.toList.getLast? = some 'y' ∨ name ∈ otherFiles) (other : String) :
    name ≠ stagingName other := by
  have hstaging : (stagingName other).toList.getLast? = some 'p' := by
    unfold stagingName
    rw [String.toList_append, List.getLast?_append]
    rfl
  rintro rfl
  rcases h with h | h
  · rw [hstaging] at h
    cases h
  · have hothers : ∀ file ∈ otherFiles, file.toList.getLast? ≠ some 'p' := by decide
    exact hothers _ h hstaging

/-- A file of a plan lies where its names say. -/
theorem exists_isAt (h : plan.IsNamed) (hartifact : artifact ∈ plan.artifacts) :
    ∃ directories name, directories ++ [name] ∈ plan.fileNames ∧
      (∀ directory ∈ directories, directory ∈ plan.directories) ∧
      (name.toList.getLast? = some 'y' ∨ name ∈ otherFiles) ∧
      artifact.IsAt (plan.pathOf directories) name := by
  have hpath : artifact.path ∈ plan.artifacts.map Artifact.path := List.mem_map_of_mem hartifact
  rw [map_path_artifacts] at hpath
  obtain ⟨names, hnames, hpath⟩ := List.mem_map.mp hpath
  obtain ⟨directories, name, rfl, hdirectories, hname⟩ := exists_of_mem_fileNames hnames
  have hsegment := isSegment_of_mem_fileNames h hnames name (by simp)
  rw [pathOf_concat] at hpath
  exact ⟨directories, name, hnames, hdirectories, hname, hpath.symm, hsegment,
    plain_of_getLast? hname⟩

/-! ### Files that are no part of a project -/

/-- Is the name neither that of a file of a project nor that of one in which a file is put together,
nor that of a directory of a project? -/
def IsForeign (name : String) : Prop :=
  name.toList.head? ≠ some '.' ∧ name.toList.getLast? ≠ some 'y' ∧ name ∉ otherFiles ∧
    '.' ∈ name.toList

instance : DecidablePred IsForeign := fun name =>
  inferInstanceAs (Decidable (name.toList.head? ≠ some '.' ∧ name.toList.getLast? ≠ some 'y' ∧
    name ∉ otherFiles ∧ '.' ∈ name.toList))

theorem no_point_of_mem_directories (h : plan.IsNamed) {directory : String}
    (hmem : directory ∈ plan.directories) : '.' ∉ directory.toList := by
  have hname : '.' ∉ plan.names.name.toList := h.name.not_mem (by decide)
  unfold directories at hmem
  simp only [List.mem_cons, List.not_mem_nil, or_false] at hmem
  rcases hmem with rfl | rfl | rfl | rfl | rfl
  · unfold ProjectNames.package
    rw [String.toList_append, List.mem_append, not_or]
    exact ⟨by decide, hname⟩
  · unfold ProjectNames.agentPackage
    rw [String.toList_append, List.mem_append, not_or]
    exact ⟨by decide, hname⟩
  · decide
  · decide
  · decide

/-- The way to a directory of a project is the way to the project and then that to the directory. -/
theorem mem_ways_pathOf {directories : List String}
    (hsegments : ∀ directory ∈ directories, Path.IsSegment directory)
    (h : spot ∈ ways [] (Path.parts (plan.pathOf directories))) :
    spot ∈ ways [] (Path.parts plan.directory) ∨
      ∃ front directory, front ++ [directory] <+: directories ∧
        spot = Path.place plan.directory ++ (front ++ [directory]) := by
  induction directories using List.reverseRecOn with
  | nil => exact .inl h
  | append_singleton front last ih =>
    have hplace : Path.place (plan.pathOf (front ++ [last])) = _ := place_pathOf hsegments
    rw [List.forall_mem_append, List.forall_mem_singleton] at hsegments
    rw [pathOf_concat, Path.parts_join _ hsegments.2, ways_concat, List.mem_append,
      List.mem_singleton] at h
    rcases h with h | rfl
    · refine (ih hsegments.1 h).imp_right ?_
      rintro ⟨before, directory, hfront, rfl⟩
      exact ⟨before, directory, hfront.trans (List.prefix_append _ _), rfl⟩
    · refine .inr ⟨front, last, List.prefix_rfl, ?_⟩
      rw [← hplace, pathOf_concat, Path.place_join _ hsegments.2, hsegments.2.step]
      rfl

/-- A file with a foreign name plays no part in a project, unless it is on the way there. -/
theorem isAside_of_isForeign (h : plan.IsNamed) (hartifact : artifact ∈ plan.artifacts)
    {name : String} (hname : IsForeign name) {place : Place}
    (hway : place ++ [name] ∉ ways [] (Path.parts plan.directory)) :
    ∃ base file, artifact.IsAt base file ∧ Writer.IsAside (place ++ [name]) base file := by
  obtain ⟨directories, file, hnames, hdirectories, hfile, hat⟩ := exists_isAt h hartifact
  refine ⟨plan.pathOf directories, file, hat, ?_, ?_, ?_⟩
  · intro hmem
    have hsegments : ∀ directory ∈ directories, Path.IsSegment directory := fun directory hmem =>
      isSegment_of_mem_fileNames h hnames directory (List.mem_append_left _ hmem)
    rcases mem_ways_pathOf hsegments hmem with hmem | ⟨front, directory, hfront, heq⟩
    · exact hway hmem
    · have hlast := congrArg List.getLast? heq
      rw [← List.append_assoc, List.getLast?_concat, List.getLast?_concat] at hlast
      cases hlast
      exact no_point_of_mem_directories h (hdirectories _ (hfront.subset (by simp))) hname.2.2.2
  · intro heq
    have hlast := congrArg List.getLast? heq
    rw [List.getLast?_concat, List.getLast?_concat] at hlast
    cases hlast
    refine hname.1 ?_
    unfold stagingName
    rw [String.toList_append, String.toList_append, List.append_assoc]
    rfl
  · intro heq
    have hlast := congrArg List.getLast? heq
    rw [List.getLast?_concat, List.getLast?_concat] at hlast
    cases hlast
    exact hfile.elim hname.2.1 hname.2.2.1

end ProjectPlan

end ApiTools
