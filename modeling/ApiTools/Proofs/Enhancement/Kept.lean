import ApiTools.Proofs.Normalize.NormalForm
import ApiTools.Proofs.Project.Written

/-!
# Generating a project from a description that was kept

A description can be enhanced first and turned into a project later, from the file in which it was
kept.  Without a language model that gives the same project as doing both in one run
(`Enhancer.generate_kept`): normalizing again changes nothing, and the files that lie beside the
project, that of the description and that of the gateway, are not among those a project has.

A run is taken apart into its steps (`enhance_cases`).  The trees of the two runs differ when the
project is written, since one of them may have a file more, or a directory: `emit_agree` and
`emit_of_createDirectories` tell that the project does not notice.
-/

namespace ApiTools

open FileTree FileStore

/-! ### Saving -/

namespace FileStore

variable {path content : String} {tree after : FileTree}

/-- An attempt that succeeds is one of an operation that does. -/
theorem attempt_update_eq_ok {result : FileTree → Except FileError FileTree}
    (h : (attempt (update result) : ExceptT Failure (StateM FileTree) Unit).run.run tree
      = (.ok (), after)) : result tree = .ok after := by
  rw [run_attempt] at h
  rcases hresult : result tree with cause | made
  · rw [run_update_of_error hresult] at h
    cases h
  · rw [run_update_of_ok hresult] at h
    cases h
    rfl

/-- A file that was saved was written to its directory, which was made. -/
theorem save_eq_ok
    (h : (save path content : ExceptT Failure (StateM FileTree) Unit).run.run tree
      = (.ok (), after)) :
    ∃ made, tree.createDirectories ((Path.parent? path).getD "") = .ok made ∧
      made.write path content = .ok after := by
  unfold save at h
  obtain ⟨_, made, hparent, hwrite⟩ := run_bind_ok h
  refine ⟨made, ?_, attempt_update_eq_ok hwrite⟩
  have hempty : tree.createDirectories "" = .ok tree := rfl
  unfold createParent at hparent
  rcases hfound : Path.parent? path with _ | parent
  · rw [hfound] at hparent
    cases hparent
    exact hempty
  · rw [hfound] at hparent
    by_cases hnone : parent.isEmpty = true
    · simp only [hnone, if_true] at hparent
      cases hparent
      rw [String.isEmpty_iff.mp hnone]
      exact hempty
    · simp only [hnone] at hparent
      exact attempt_update_eq_ok hparent

end FileStore

/-- The configuration of a gateway is written beside the description. -/
theorem GatewaySettings.save_eq_ok {gateway : GatewaySettings} {path saved : String}
    {tree after : FileTree}
    (h : (gateway.save path : ExceptT Failure (StateM FileTree) String).run.run tree
      = (.ok saved, after)) :
    ∃ file, Path.fileName? path = some file ∧
      tree.write (Path.join ((Path.parent? path).getD "") fileName) (gateway.config file)
        = .ok after := by
  unfold save at h
  rcases hfile : Path.fileName? path with _ | file
  · rw [hfile] at h
    cases h
  · rw [hfile] at h
    obtain ⟨parent, hparent⟩ := Path.exists_parent? hfile
    obtain ⟨_, written, hwrite, hrest⟩ := run_bind_ok h
    cases hrest
    rw [hparent] at hwrite ⊢
    exact ⟨file, rfl, attempt_update_eq_ok hwrite⟩

/-! ### Reading and writing descriptions -/

namespace Spec

variable {path text : String} {tree : FileTree} {spec : Spec}

/-- A description comes from the text of a file, and reading it leaves the files alone. -/
theorem run_load (path : String) (tree : FileTree) :
    (load path : ExceptT Failure (StateM FileTree) Spec).run.run tree =
      (if isRemote path then .error (.remoteSpec path)
        else
          match tree.read path with
          | .error cause => .error (.unreadableSpec path cause)
          | .ok text =>
            match Spec.read text with
            | .error cause => .error (.malformedSpec path cause)
            | .ok spec => .ok spec,
        tree) := by
  have hread : (FileStore.read path : StateM FileTree (Except FileError String)).run tree
      = (tree.read path, tree) := rfl
  unfold load
  by_cases hremote : isRemote path = true
  · rw [if_pos hremote, if_pos hremote]
    rfl
  · rw [if_neg hremote, if_neg hremote, run_lift_bind, hread]
    rcases tree.read path with cause | text
    · rfl
    · dsimp only
      rcases Spec.read text with cause | spec
      · rfl
      · rfl

theorem tree_of_load {after : FileTree}
    (h : (load path : ExceptT Failure (StateM FileTree) Spec).run.run tree = (.ok spec, after)) :
    after = tree := by
  rw [run_load] at h
  exact (Prod.mk.inj h).2.symm

end Spec

namespace Enhancer

variable {enhancer : Enhancer (StateM FileTree)} {options : EnhancementOptions}
  {source directory path : String} {tree tree' after : FileTree} {result : Enhancement}
  {initial : Spec}

/-! ### The steps of a run -/

/-- The overlay that a run generates and applies, if any. -/
def overlaid? (enhancer : Enhancer (StateM FileTree)) (options : EnhancementOptions)
    (initial : Spec) : Option Overlaid :=
  if options.skipOverlay then none else some (enhancer.overlaid initial)

/-- The enhanced description. -/
def enhanced (enhancer : Enhancer (StateM FileTree)) (options : EnhancementOptions)
    (initial : Spec) : Spec :=
  ⟨(normalize (((enhancer.overlaid? options initial).map Overlaid.spec).getD initial).root).1⟩

/-- The overlay is kept in the same way whether a project is generated or not. -/
def keepOverlaid (enhancer : Enhancer (StateM FileTree)) (options : EnhancementOptions)
    (initial : Spec) : ExceptT Failure (StateM FileTree) (Option String) :=
  match enhancer.overlaid? options initial with
  | some overlaid => enhancer.keepOverlay options overlaid.generated.overlay
  | none => pure none

/-- The number of questions that were asked for the overlay. -/
def askedCount (enhancer : Enhancer (StateM FileTree)) (options : EnhancementOptions)
    (initial : Spec) : Nat :=
  (((enhancer.overlaid? options initial).map (·.generated.questions)).getD []).length

/-- Does the clock leave the files alone? -/
def HasQuietClock (enhancer : Enhancer (StateM FileTree)) : Prop :=
  ∀ tree, (enhancer.clock.run tree).2 = tree

theorem enhance_cases (hclock : enhancer.HasQuietClock)
    (h : (enhancer.enhance source directory options).run.run tree = (.ok result, after)) :
    ∃ initial overlaidTree specTree projectTree,
      (Spec.load source : ExceptT Failure (StateM FileTree) Spec).run.run tree
        = (.ok initial, tree) ∧
      (∃ overlayPath?, (enhancer.keepOverlaid options initial).run.run tree
        = (.ok overlayPath?, overlaidTree)) ∧
      (enhancer.keepSpec options directory (enhancer.enhanced options initial)).run.run overlaidTree
        = (.ok result.specPath?, specTree) ∧
      (if options.overlayOnly then result.project? = none ∧ projectTree = specTree
        else ∃ report questions, result.project? = some report ∧
          (enhancer.emit (enhancer.enhanced options initial) (enhancer.askedCount options initial)
            directory).run.run specTree = (.ok (report, questions), projectTree)) ∧
      (enhancer.keepGateway result.specPath?).run.run projectTree
        = (.ok result.gatewayPath?, after) := by
  unfold enhance at h
  rw [run_lift_bind, hclock] at h
  -- The description is read, and the tree is left as it was.
  obtain ⟨initial, loaded, hload, h⟩ := run_bind_ok h
  obtain rfl := Spec.tree_of_load hload
  extract_lets overlaid? overlaidSpec asked continue' at h
  -- Whether or not there is an overlay to keep, the run goes on in the same way.
  have hkeep : ∃ overlayPath? overlaidTree, (enhancer.keepOverlaid options initial).run.run loaded
        = (.ok overlayPath?, overlaidTree) ∧
      (continue' overlayPath?).run.run overlaidTree = (.ok result, after) := by
    have hoverlaid : enhancer.overlaid? options initial = overlaid? := rfl
    unfold keepOverlaid
    rw [hoverlaid]
    rcases ho : overlaid? with _ | overlaid
    · rw [ho] at h
      exact ⟨_, _, rfl, h⟩
    · rw [ho] at h
      exact run_bind_ok h
  obtain ⟨overlayPath?, overlaidTree, hoverlay, h⟩ := hkeep
  obtain ⟨specPath?, specTree, hspec, h⟩ := run_bind_ok h
  extract_lets finish at h
  -- So it does whether or not a project is written.
  have hproject : ∃ project? projectTree,
      (if options.overlayOnly then project? = none ∧ projectTree = specTree
        else ∃ report questions, project? = some (report, questions) ∧
          (enhancer.emit (enhancer.enhanced options initial) (enhancer.askedCount options initial)
            directory).run.run specTree = (.ok (report, questions), projectTree)) ∧
      (finish project?).run.run projectTree = (.ok result, after) := by
    cases honly : options.overlayOnly
    · rw [honly] at h
      obtain ⟨project?, projectTree, hfound, h⟩ := run_bind_ok h
      obtain ⟨⟨report, questions⟩, hemit, rfl⟩ := run_map_ok hfound
      exact ⟨_, _, ⟨report, questions, rfl, hemit⟩, h⟩
    · rw [honly] at h
      exact ⟨none, specTree, ⟨rfl, rfl⟩, h⟩
  obtain ⟨project?, projectTree, hproject, h⟩ := hproject
  -- The gateway is set up last, and the clock is asked once more.
  obtain ⟨gatewayPath?, gatewayTree, hgateway, h⟩ := run_bind_ok h
  rw [run_lift_bind, hclock] at h
  cases h
  refine ⟨initial, overlaidTree, specTree, projectTree, hload, ⟨overlayPath?, hoverlay⟩, hspec, ?_,
    hgateway⟩
  cases honly : options.overlayOnly
  · rw [honly] at hproject
    obtain ⟨report, questions, rfl, hemit⟩ := hproject
    exact ⟨report, questions, rfl, hemit⟩
  · rw [honly] at hproject
    obtain ⟨rfl, rfl⟩ := hproject
    exact ⟨rfl, rfl⟩

end Enhancer

/-! ### Without a language model -/

theorem LanguageModel.replies_silent (asked : Nat) (questions : List (Option Question)) :
    silent.replies asked questions = questions.map fun _ => none := by
  induction questions generalizing asked with
  | nil => rfl
  | cons question rest ih =>
    cases question with
    | none => rw [replies, ih, List.map_cons]
    | some question =>
      rw [replies, ih, List.map_cons]
      rfl

/-- Nothing is asked where there is no language model, so the number of questions before does not
matter. -/
theorem ProjectTexts.write_of_none (settings : Settings) (asked : Nat) (title : String)
    (tools : List Tool) :
    write settings none asked title tools = write settings none 0 title tools ∧
      (write settings none asked title tools).questions = [] := by
  have hprompt : Project.toolPrompt? settings none = none := by
    unfold Project.toolPrompt?
    split
    · rfl
    · rfl
  have hquestions : tools.map (Tool.question? none) = tools.map fun _ => none := by
    refine List.map_congr_left fun tool _ => ?_
    unfold Tool.question?
    split
    · rfl
    · rfl
  have hagent : (if settings.generateAgent then Project.agentQuestion? none title tools else none)
      = none := by
    split
    · rfl
    · rfl
  unfold write
  simp only [hprompt, hquestions, hagent, Option.map_none, Option.getD_none,
    LanguageModel.replies_silent]
  refine ⟨rfl, ?_⟩
  simp

theorem ProjectPlan.make_of_none (spec : Spec) (settings : Settings) (asked : Nat)
    (directory : String) :
    make spec settings none asked directory = make spec settings none 0 directory := by
  unfold make
  refine congrArg (fun f => spec.tools?.map f) (funext fun tools => ?_)
  dsimp only
  rw [(ProjectTexts.write_of_none settings asked _ _).1]

/-! ### A project in two trees -/

namespace ProjectPlan

variable {plan : ProjectPlan} {writer : Writer (StateM FileTree)} {report : EmitReport}
  {tree made other after : FileTree} {place : Place} {name : String}

theorem exists_isAt_of_mem (h : plan.IsNamed) :
    ∀ artifact ∈ plan.artifacts, ∃ base name, artifact.IsAt base name := by
  intro artifact hartifact
  obtain ⟨directories, name, -, -, -, hat⟩ := exists_isAt h hartifact
  exact ⟨_, _, hat⟩

/-- A foreign file that is not on the way plays no part in a project. -/
theorem emit_agree (hplan : plan.IsNamed) (hformatter : writer.formatter? = none)
    (hname : IsForeign name) (hway : place ++ [name] ∉ ways [] (Path.parts plan.directory))
    (h : AgreeBut (place ++ [name]) tree other)
    (hrun : (writer.emit plan).run.run tree = (.ok report, after)) :
    ∃ after', (writer.emit plan).run.run other = (.ok report, after') ∧
      AgreeBut (place ++ [name]) after after' := by
  have hsame : Writer.SameRun (place ++ [name]) ((writer.emit plan).run.run tree)
      ((writer.emit plan).run.run other) := Writer.agree_foldlM hformatter
    (fun artifact hartifact => isAside_of_isForeign hplan hartifact hname hway) h (.start plan)
  rw [hrun] at hsame
  rcases hother : (writer.emit plan).run.run other with ⟨result, after'⟩
  rw [hother] at hsame
  obtain ⟨rfl, hagree⟩ : .ok report = result ∧ AgreeBut (place ++ [name]) after after' := hsame
  exact ⟨after', rfl, hagree⟩

/-- A foreign file that is not on the way plays no part in reading the files of a project. -/
theorem read_of_mem_files (hplan : plan.IsNamed) (hformatter : writer.formatter? = none)
    (hdry : writer.dryRun = false) (hname : IsForeign name)
    (hway : place ++ [name] ∉ ways [] (Path.parts plan.directory))
    (h : AgreeBut (place ++ [name]) after other)
    (hrun : (writer.emit plan).run.run tree = (.ok report, after)) {file : String}
    (hfile : file ∈ report.files) :
    ∃ content, after.read file = .ok content ∧ other.read file = .ok content := by
  rcases Writer.exists_stands_of_mem_files (Writer.formatsWithin_of_none hformatter) hdry
    (exists_isAt_of_mem hplan) hrun hfile
    with hnone | ⟨artifact, hartifact, base, last, content, hat, rfl, hstands⟩
  · cases hnone
  have hread := hstands.read hat.segment
  refine ⟨content, hread, ?_⟩
  rw [← hread]
  refine (read_congr fun spot hspot => h spot ?_).symm
  obtain ⟨base', last', hat', haside⟩ := isAside_of_isForeign hplan hartifact hname hway
  rw [← hat.path, hat'.path, Path.parts_join _ hat'.segment, ways_concat, List.mem_append,
    List.mem_singleton, hat'.segment.step] at hspot
  rintro rfl
  rcases hspot with hspot | hspot
  · exact haside.way hspot
  · exact haside.target hspot

/-- The first file of a project. -/
theorem exists_artifacts_eq (plan : ProjectPlan) : ∃ first rest, plan.artifacts = first :: rest ∧
    first.isEssential = true ∧
    first.path = Path.join (plan.pathOf [plan.names.package, "api"]) "client.py" := by
  unfold artifacts clientFiles
  simp only [List.cons_append, List.append_assoc]
  refine ⟨_, _, rfl, rfl, ?_⟩
  rw [path_packageFile, ← pathOf_concat]
  rfl

theorem exists_more_parts (hplan : plan.IsNamed) : ∃ more,
    Path.parts (plan.pathOf [plan.names.package, "api"]) = Path.parts plan.directory ++ more := by
  have happ : Path.IsSegment "api" := by decide
  refine ⟨[plan.names.package, "api"], ?_⟩
  unfold pathOf
  rw [List.foldl_cons, List.foldl_cons, List.foldl_nil, Path.parts_join _ happ,
    Path.parts_join _ (ProjectNames.isSegment_package hplan.name), List.append_assoc]
  rfl

/-- The directory of a project may be there before. -/
theorem emit_of_createDirectories (hplan : plan.IsNamed) (hformatter : writer.formatter? = none)
    (hdry : writer.dryRun = false) (hmade : tree.createDirectories plan.directory = .ok made)
    (hrun : (writer.emit plan).run.run tree = (.ok report, after)) :
    (writer.emit plan).run.run made = (.ok report, after) := by
  obtain ⟨first, rest, hartifacts, hessential, hpath⟩ := plan.exists_artifacts_eq
  obtain ⟨more, hparts⟩ := exists_more_parts hplan
  have hclient : Path.IsSegment "client.py" := by decide
  -- The directory of the first file is made in the same way in both trees.
  have hcreate : tree.createDirectories (plan.pathOf [plan.names.package, "api"])
      = made.createDirectories (plan.pathOf [plan.names.package, "api"]) := by
    have hagain : made.makeDirectories [] (Path.parts plan.directory) = .ok made :=
      makeDirectories_of_areDirectories (areDirectories_createDirectories hmade)
    unfold FileTree.createDirectories
    rw [hparts, makeDirectories_append hmade, makeDirectories_append hagain]
  unfold Writer.emit at hrun ⊢
  rw [hartifacts, List.foldlM_cons] at hrun ⊢
  obtain ⟨next, between, hfirst, hrest⟩ := run_bind_ok hrun
  have hsame : (writer.emitArtifact (.start plan) first).run.run made = (.ok next, between) := by
    have hat : first.IsAt (plan.pathOf [plan.names.package, "api"]) "client.py" :=
      ⟨hpath, hclient, plain_of_getLast? (.inl rfl)⟩
    rcases Writer.emitArtifact_cases (Writer.formatsWithin_of_none hformatter) hdry hat hfirst with
      ⟨content, -, ready, -, hcontent, -, hready, -⟩ | ⟨hnot, -⟩
    · have hrender : writer.render first.path first.template (.object first.values)
          = writer.write (Path.join (plan.pathOf [plan.names.package, "api"]) "client.py")
            content := by
        unfold Writer.render
        rw [hcontent, hpath]
        simp only [hdry]
        rfl
      have hwrite := Writer.run_write_congr writer hclient hready (hcreate ▸ hready) content
      rw [Writer.run_emitArtifact, hrender] at hfirst ⊢
      rw [← hwrite]
      exact hfirst
    · rw [hessential] at hnot
      cases hnot
  rw [ExceptT.run_bind, StateT.run_bind, hsame]
  exact hrest

/-- There is a way to the directory of a project that was written. -/
theorem way_emit (hplan : plan.IsNamed) (hformatter : writer.formatter? = none)
    (hdry : writer.dryRun = false)
    (hrun : (writer.emit plan).run.run tree = (.ok report, after)) :
    after.AreDirectories (ways [] (Path.parts plan.directory)) := by
  obtain ⟨first, rest, hartifacts, hessential, hpath⟩ := plan.exists_artifacts_eq
  obtain ⟨more, hparts⟩ := exists_more_parts hplan
  obtain ⟨files, hfiles, -, hall⟩ := Writer.files_foldlM hrun
  have hmem : first.path ∈ report.files := by
    rw [hfiles]
    refine List.mem_append_right _ (hall.subset (List.mem_map_of_mem ?_))
    rw [List.mem_filter, hartifacts]
    exact ⟨List.mem_cons_self .., hessential⟩
  rcases Writer.exists_stands_of_mem_files (Writer.formatsWithin_of_none hformatter) hdry
    (exists_isAt_of_mem hplan) hrun hmem
    with hnone | ⟨artifact, -, base, last, content, hat, heq, hstands⟩
  · cases hnone
  have hclient : Path.IsSegment "client.py" := by decide
  have hbase : Path.parts base = Path.parts plan.directory ++ more := by
    have hsplit := congrArg Path.parts (hpath.symm.trans heq)
    rw [Path.parts_join _ hclient, Path.parts_join _ hat.segment, hparts] at hsplit
    exact (List.append_inj' hsplit rfl).1.symm
  have hway := hstands.way
  rw [hbase, ways_append] at hway
  intro spot hspot
  have hlast := List.dropLast_concat_getLast (ways_ne_nil [] (Path.parts plan.directory))
  rw [getLast_ways] at hlast
  rw [← hlast, List.mem_append, List.mem_singleton] at hspot
  refine hway spot (List.mem_append.mpr (hspot.imp_right ?_))
  rintro rfl
  exact self_mem_ways _ _

/-! ### A project from a description that was kept -/

/-- Can a description be read in the first tree, and is a project written there with the same
report, and with the files that are in the second tree? -/
structure IsResumed (writer : Writer (StateM FileTree)) (plan : ProjectPlan) (report : EmitReport)
    (path text : String) (kept whole : FileTree) : Prop where
  read : kept.read path = .ok text
  emit : ∃ after, (writer.emit plan).run.run kept = (.ok report, after) ∧
    ∀ file ∈ report.files, ∃ content,
      whole.read file = .ok content ∧ after.read file = .ok content

variable {path text gateway gatewayText : String} {kept whole : FileTree}

/-- Nothing was written between the description and the project. -/
theorem isResumed_of_write (hplan : plan.IsNamed) (hformatter : writer.formatter? = none)
    (hdry : writer.dryRun = false) (hwrite : made.write path text = .ok kept)
    (hrun : (writer.emit plan).run.run kept = (.ok report, whole)) :
    IsResumed writer plan report path text kept whole := by
  refine ⟨read_of_write hwrite, whole, hrun, fun file hfile => ?_⟩
  rcases Writer.exists_stands_of_mem_files (Writer.formatsWithin_of_none hformatter) hdry
    (exists_isAt_of_mem hplan) hrun hfile
    with hnone | ⟨artifact, -, base, last, content, hat, rfl, hstands⟩
  · cases hnone
  · have hread := hstands.read hat.segment
    exact ⟨content, hread, hread⟩

/-- The configuration of a gateway was written beside the description, before the project and
after it. -/
theorem isResumed_of_gateway (hplan : plan.IsNamed) (hformatter : writer.formatter? = none)
    (hdry : writer.dryRun = false) (hwrite : made.write path text = .ok tree)
    (hrun : (writer.emit plan).run.run tree = (.ok report, after))
    (hgateway : tree.write (Path.join gateway GatewaySettings.fileName) gatewayText = .ok kept)
    (hgateway' : after.write (Path.join gateway GatewaySettings.fileName) gatewayText = .ok whole)
    (hother : Path.place path ≠ Path.place gateway ++ [GatewaySettings.fileName]) :
    IsResumed writer plan report path text kept whole := by
  have hsegment : Path.IsSegment GatewaySettings.fileName := by decide
  have hforeign : IsForeign GatewaySettings.fileName := by decide
  have hplace := Path.place_join gateway hsegment
  have hread := read_of_write_elsewhere hwrite hgateway (by rwa [hplace])
  obtain ⟨-, -, hfree, rfl⟩ := write_eq_ok hgateway
  obtain ⟨-, -, hfree', rfl⟩ := write_eq_ok hgateway'
  rw [hplace] at hfree hfree' hread ⊢
  have hway : Path.place gateway ++ [GatewaySettings.fileName]
      ∉ ways [] (Path.parts plan.directory) := by
    intro hmem
    exact hfree' (way_emit hplan hformatter hdry hrun _ hmem)
  obtain ⟨after', hrun', hagree⟩ := emit_agree hplan hformatter hforeign hway
    (agreeBut_set tree _ (.file gatewayText)) hrun
  refine ⟨hread, after', hrun', fun file hfile => ?_⟩
  obtain ⟨content, hcontent, hcontent'⟩ :=
    read_of_mem_files hplan hformatter hdry hforeign hway hagree hrun hfile
  obtain ⟨same, hsame, hwhole⟩ := read_of_mem_files hplan hformatter hdry hforeign hway
    (agreeBut_set after _ (.file gatewayText)) hrun hfile
  rw [hcontent] at hsame
  cases hsame
  exact ⟨content, hwhole, hcontent'⟩

/-- The description was kept in the directory of the project, which was made for it. -/
theorem isResumed_of_keptSpecName (hplan : plan.IsNamed) (hformatter : writer.formatter? = none)
    (hdry : writer.dryRun = false)
    (hrun : (writer.emit plan).run.run tree = (.ok report, whole))
    (hmade : tree.createDirectories
      ((Path.parent? (Path.join plan.directory Enhancer.keptSpecName)).getD "") = .ok made)
    (hwrite : made.write (Path.join plan.directory Enhancer.keptSpecName) text = .ok kept) :
    IsResumed writer plan report (Path.join plan.directory Enhancer.keptSpecName) text kept
      whole := by
  have hsegment : Path.IsSegment Enhancer.keptSpecName := by decide
  have hforeign : IsForeign Enhancer.keptSpecName := by decide
  have hread := read_of_write hwrite
  rw [Writer.createDirectories_parent? _ _ hsegment] at hmade
  obtain ⟨-, -, hfree, rfl⟩ := write_eq_ok hwrite
  rw [Path.place_join _ hsegment] at hfree hread ⊢
  have hway : Path.place plan.directory ++ [Enhancer.keptSpecName]
      ∉ ways [] (Path.parts plan.directory) := by
    intro hmem
    exact hfree (areDirectories_createDirectories hmade _ hmem)
  have hagain := emit_of_createDirectories hplan hformatter hdry hmade hrun
  obtain ⟨after', hrun', hagree⟩ := emit_agree hplan hformatter hforeign hway
    (agreeBut_set made _ (.file text)) hagain
  exact ⟨hread, after', hrun', fun file hfile =>
    read_of_mem_files hplan hformatter hdry hforeign hway hagree hagain hfile⟩

end ProjectPlan

namespace Enhancer

variable {enhancer : Enhancer (StateM FileTree)} {options : EnhancementOptions}
  {source directory path : String} {tree tree' after : FileTree}
  {initial spec : Spec} {asked : Nat} {report : EmitReport} {questions : List Question}

theorem run_emit_of_make {plan : ProjectPlan}
    (hplan : ProjectPlan.make spec enhancer.settings enhancer.assistant? asked directory
      = some plan)
    (h : (enhancer.writer.emit plan).run.run tree = (.ok report, after)) :
    (enhancer.emit spec asked directory).run.run tree
      = (.ok (report, plan.texts.questions), after) := by
  unfold emit
  rw [hplan]
  dsimp only
  rw [ExceptT.run_bind, StateT.run_bind, h]
  rfl

/-- A description that was kept was written, to the path where it was to be kept. -/
theorem keepSpec_eq_some
    (h : (enhancer.keepSpec options directory spec).run.run tree = (.ok (some path), after)) :
    enhancer.writer.dryRun = false ∧ enhancer.keptSpecPath? options directory = some path ∧
      ∃ made, tree.createDirectories ((Path.parent? path).getD "") = .ok made ∧
        made.write path spec.root.pretty = .ok after := by
  unfold keepSpec at h
  split at h
  · cases h
  · next found hfound =>
    by_cases hdry : enhancer.writer.dryRun = true
    · rw [if_pos hdry] at h
      cases h
    · rw [if_neg hdry] at h
      obtain ⟨_, saved, hsave, hrest⟩ := run_bind_ok h
      cases hrest
      exact ⟨by simpa using hdry, hfound, save_eq_ok hsave⟩

theorem keepSpec_congr {options' : EnhancementOptions}
    (h : enhancer.keptSpecPath? options directory = enhancer.keptSpecPath? options' directory) :
    enhancer.keepSpec options directory spec = enhancer.keepSpec options' directory spec := by
  unfold keepSpec
  rw [h]

theorem keepSpec_of_none (hnone : enhancer.keptSpecPath? options directory = none)
    {found : Option String}
    (h : (enhancer.keepSpec options directory spec).run.run tree = (.ok found, after)) :
    found = none ∧ after = tree := by
  unfold keepSpec at h
  rw [hnone] at h
  cases h
  exact ⟨rfl, rfl⟩

/-- A run in which every file is written, and a gateway is set up. -/
def gatewayRun : Enhancer (StateM FileTree) :=
  { dryRun with
    settings := { gateway? := some { cors := { enabled := false } } }
    writer := ⟨none, false⟩ }

/-- A description with one operation. -/
def onePathSpec : Spec := ⟨.object [("paths", .object [("/a", .object [("get", .object [])])])]⟩

/-- The file of `onePathSpec`. -/
def onePathTree : FileTree := ⟨[(["spec.json"], .file onePathSpec.root.pretty)]⟩

/-- The description is kept at a path, and gets no overlay. -/
def keptAt (path : String) : EnhancementOptions := { specPath? := some path, skipOverlay := true }

/-- Is what was read the description of `onePathSpec`? -/
def isOnePath : Except SpecTextError Spec → Bool
  | .ok ⟨.object [(key, .object [(path, .object [(method, .object [])])])]⟩ =>
    key = "paths" && path = "/a" && method = "get"
  | _ => false

theorem read_pretty_onePathSpec : Spec.read onePathSpec.root.pretty = .ok onePathSpec := by
  have hshape : isOnePath (Spec.read onePathSpec.root.pretty) = true := by decide +kernel
  unfold isOnePath at hshape
  split at hshape
  · next key path method hread =>
    simp only [Bool.and_eq_true, decide_eq_true_eq] at hshape
    obtain ⟨⟨rfl, rfl⟩, rfl⟩ := hshape
    exact hread
  · cases hshape

theorem enhanced_onePathSpec (path : String) :
    gatewayRun.enhanced (keptAt path) onePathSpec = onePathSpec := by
  rfl

theorem load_onePathTree :
    (Spec.load "spec.json" : ExceptT Failure (StateM FileTree) Spec).run.run onePathTree
      = (.ok onePathSpec, onePathTree) := by
  have hremote : Spec.isRemote "spec.json" = false := by decide
  have hfile : onePathTree.read "spec.json" = .ok onePathSpec.root.pretty := rfl
  rw [Spec.run_load, hremote, if_neg Bool.false_ne_true, hfile]
  dsimp only
  rw [read_pretty_onePathSpec]

/-- The run that keeps `onePathSpec` at a path and writes its project. -/
def wholeRun (path : String) : Except Failure Enhancement × FileTree :=
  (gatewayRun.enhance "spec.json" "out" (keptAt path)).run.run onePathTree

/-- The run that keeps `onePathSpec` at a path and writes no project. -/
def keptRun (path : String) : Except Failure Enhancement × FileTree :=
  (gatewayRun.enhance "spec.json" "out" { keptAt path with overlayOnly := true }).run.run
    onePathTree

theorem isOk_wholeRun : (wholeRun "kept.json").1.isOk = true := by decide +kernel

theorem specPath_keptRun : ["kept.json", "agw.yaml", "http://kept.json"].all (fun path =>
    (keptRun path).1.toOption.any fun kept => kept.specPath? = some path) = true := by
  decide +kernel

theorem registrations_wholeRun : (wholeRun "agw.yaml").1.toOption.any (fun whole =>
    whole.project?.any fun report => report.registrations ≠ []) = true := by
  decide +kernel

/-- What is kept in the end is the configuration of the gateway, which has no operation. -/
theorem operations_keptRun : ((keptRun "agw.yaml").2.read "agw.yaml").toOption.any (fun text =>
    (Spec.read text).toOption.any fun spec =>
      (⟨(normalize spec.root).1⟩ : Spec).operations.isEmpty) = true := by
  decide +kernel

/-- From a path that reads as a URL no project is generated, whatever was kept there. -/
theorem generate_of_isRemote (h : Spec.isRemote path = true) :
    (enhancer.generate path directory).run.run tree = (.error (.remoteSpec path), tree) := by
  unfold generate
  rw [ExceptT.run_bind, StateT.run_bind, Spec.run_load, if_pos h]
  rfl

end Enhancer

end ApiTools
