import ApiTools.Proofs.Overlay.Assisted
import ApiTools.Proofs.Project.Registrations

/-!
# What the report of a project counts

The report of a project has the number of calls of a language model and their tokens.  A reply about
a tool counts whatever is in it; the reply about the agent counts only where it is not blank
(`ProjectPlan.usages_make`).  Neither the files that are written nor those that fail change the
numbers, so the report accounts for all replies exactly where the reply about the agent is not
blank (`Enhancer.accounts_emit`).
-/

namespace ApiTools

/-- The report counts these replies and adds up their tokens. -/
structure EmitReport.Accounts (report : EmitReport) (replies : List Reply) : Prop where
  calls : report.calls = replies.length
  inputTokens : report.inputTokens = (replies.map fun reply => reply.usage.input).sum
  outputTokens : report.outputTokens = (replies.map fun reply => reply.usage.output).sum

/-! ### Replies -/

namespace LanguageModel

/-- The replies to the questions, without the calls that failed. -/
def answered (model : LanguageModel) (asked : Nat) (questions : List Question) : List Reply :=
  (model.answers asked questions).filterMap id

theorem answered_cons (model : LanguageModel) (asked : Nat) (question : Question)
    (rest : List Question) :
    model.answered asked (question :: rest)
      = (model asked question).toList ++ model.answered (asked + 1) rest := by
  unfold answered
  rw [Overlay.answers_cons]
  cases model asked question <;> rfl

theorem answered_append (model : LanguageModel) (asked : Nat) (questions more : List Question) :
    model.answered asked (questions ++ more)
      = model.answered asked questions ++ model.answered (asked + questions.length) more := by
  induction questions generalizing asked with
  | nil => rfl
  | cons question rest ih =>
    rw [List.cons_append, answered_cons, answered_cons, ih, List.append_assoc, List.length_cons,
      Nat.add_right_comm, ← Nat.add_assoc]

/-- Only the questions that are there are asked. -/
theorem filterMap_replies (model : LanguageModel) (asked : Nat)
    (questions : List (Option Question)) :
    (model.replies asked questions).filterMap id
      = model.answered asked (questions.filterMap id) := by
  induction questions generalizing asked with
  | nil => rfl
  | cons question? rest ih =>
    cases question? with
    | none =>
      rw [replies, List.filterMap_cons_none rfl, List.filterMap_cons_none rfl, ih]
    | some question =>
      rw [replies, List.filterMap_cons_some (f := id) rfl, answered_cons, ← ih]
      cases model asked question <;> rfl

/-- Where the reply to a single question is used only if it is not blank, that is when it counts. -/
theorem map_usage_filter_answered (model : LanguageModel) (asked : Nat)
    (question? : Option Question) :
    ((model.answered asked question?.toList).filter
        fun reply => !Text.isBlankText reply.content).map Reply.usage
      = (((question?.bind (model asked)).bind
          fun reply => reply.text?.map (·, reply.usage)).map Prod.snd).toList := by
  cases question? with
  | none => rfl
  | some question =>
    rw [Option.toList_some, answered_cons, Option.bind_some]
    cases model asked question with
    | none => rfl
    | some reply =>
      unfold Reply.text?
      by_cases hblank : Text.isBlankText reply.content = true
      · simp [answered, answers, hblank]
      · simp [answered, answers, hblank]

end LanguageModel

namespace ProjectPlan

/-! ### Questions of a plan -/

/-- What a model is asked about the tools. -/
def toolQuestions (plan : ProjectPlan) (assistant? : Option Assistant) : List Question :=
  plan.tools.filterMap (Tool.question? (Project.toolPrompt? plan.settings assistant?))

/-- What a model is asked about the agent. -/
def agentQuestion? (plan : ProjectPlan) (assistant? : Option Assistant) : Option Question :=
  if plan.settings.generateAgent then
    Project.agentQuestion? assistant? plan.names.title plan.tools
  else none

/-- The replies about the tools. -/
def toolReplies (plan : ProjectPlan) (assistant? : Option Assistant) (asked : Nat) : List Reply :=
  ((assistant?.map Assistant.model).getD .silent).answered asked (plan.toolQuestions assistant?)

/-- The replies about the agent: there is at most one. -/
def agentReplies (plan : ProjectPlan) (assistant? : Option Assistant) (asked : Nat) : List Reply :=
  ((assistant?.map Assistant.model).getD .silent).answered
    (asked + (plan.toolQuestions assistant?).length) (plan.agentQuestion? assistant?).toList

variable {spec : Spec} {settings : Settings} {assistant? : Option Assistant} {asked : Nat}
  {directory : String} {plan : ProjectPlan}

theorem toolQuestions_eq (plan : ProjectPlan) (assistant? : Option Assistant) :
    plan.toolQuestions assistant?
      = (plan.tools.map (Tool.question? (Project.toolPrompt? plan.settings assistant?))).filterMap
          id := by
  rw [List.filterMap_map]
  rfl

/-- The texts of a plan are written for its tools. -/
theorem texts_make (h : make spec settings assistant? asked directory = some plan) :
    plan.texts = .write plan.settings assistant? asked plan.names.title plan.tools := by
  obtain ⟨tools, -, rfl⟩ := Option.map_eq_some_iff.mp h
  rfl

theorem questions_make (h : make spec settings assistant? asked directory = some plan) :
    plan.texts.questions
      = plan.toolQuestions assistant? ++ (plan.agentQuestion? assistant?).toList := by
  rw [texts_make h, toolQuestions_eq]
  rfl

/-- Every reply about a tool counts, and the one about the agent where it is not blank. -/
theorem usages_make (h : make spec settings assistant? asked directory = some plan) :
    plan.texts.usages
      = (plan.toolReplies assistant? asked
          ++ (plan.agentReplies assistant? asked).filter
              fun reply => !Text.isBlankText reply.content).map Reply.usage := by
  have htools : (plan.toolReplies assistant? asked).map Reply.usage
      = (((assistant?.map Assistant.model).getD .silent).replies asked
          (plan.tools.map
            (Tool.question? (Project.toolPrompt? plan.settings assistant?)))).filterMap
              (Option.map Reply.usage) := by
    unfold toolReplies
    rw [toolQuestions_eq, ← LanguageModel.filterMap_replies, List.map_filterMap]
    rfl
  have hagent := LanguageModel.map_usage_filter_answered
    ((assistant?.map Assistant.model).getD .silent)
    (asked + (plan.toolQuestions assistant?).length) (plan.agentQuestion? assistant?)
  rw [List.map_append, htools, agentReplies, hagent, texts_make h, toolQuestions_eq]
  rfl

end ProjectPlan

/-! ### Reports -/

namespace EmitReport

theorem counts_record (report : EmitReport) (path : String) (rendered : Rendered) :
    (report.record path rendered).calls = report.calls ∧
      (report.record path rendered).inputTokens = report.inputTokens ∧
      (report.record path rendered).outputTokens = report.outputTokens := by
  cases rendered <;> exact ⟨rfl, rfl, rfl⟩

/-- At the beginning a report counts the calls of its plan. -/
theorem accounts_start {plan : ProjectPlan} {replies : List Reply}
    (h : plan.texts.usages = replies.map Reply.usage) : (start plan).Accounts replies := by
  refine ⟨?_, ?_, ?_⟩
  · exact (congrArg List.length h).trans (List.length_map ..)
  · exact (congrArg (fun usages => total (usages.map TokenUsage.input)) h).trans
      (congrArg total (List.map_map ..))
  · exact (congrArg (fun usages => total (usages.map TokenUsage.output)) h).trans
      (congrArg total (List.map_map ..))

variable {report : EmitReport} {replies others : List Reply}

/-- A report that accounts for the replies that are not blank among others accounts for all of them
exactly where none is blank. -/
theorem Accounts.accounts_append_iff
    (h : report.Accounts (replies ++ others.filter fun reply => !Text.isBlankText reply.content)) :
    report.Accounts (replies ++ others) ↔
      ∀ reply ∈ others, Text.isBlankText reply.content = false := by
  constructor
  · intro hall
    have hlength : (others.filter fun reply => !Text.isBlankText reply.content).length
        = others.length := by
      have hcalls := h.calls.symm.trans hall.calls
      rw [List.length_append, List.length_append] at hcalls
      exact Nat.add_left_cancel hcalls
    simpa using List.length_filter_eq_length_iff.mp hlength
  · intro hnone
    rwa [List.filter_eq_self.mpr (by simpa using hnone)] at h

end EmitReport

/-- What becomes of the files does not change what is counted. -/
theorem Writer.accounts_emit {writer : Writer (StateM FileTree)} {plan : ProjectPlan}
    {after : EmitReport} {replies : List Reply} {tree tree' : FileTree}
    (hstart : (EmitReport.start plan).Accounts replies)
    (h : (writer.emit plan).run.run tree = (.ok after, tree')) : after.Accounts replies := by
  have hcalls : after.calls = (EmitReport.start plan).calls :=
    report_foldlM (fun _ _ _ => (EmitReport.counts_record ..).1) (fun _ _ => rfl) h
  have hinput : after.inputTokens = (EmitReport.start plan).inputTokens :=
    report_foldlM (fun _ _ _ => (EmitReport.counts_record ..).2.1) (fun _ _ => rfl) h
  have houtput : after.outputTokens = (EmitReport.start plan).outputTokens :=
    report_foldlM (fun _ _ _ => (EmitReport.counts_record ..).2.2) (fun _ _ => rfl) h
  exact ⟨hcalls.trans hstart.calls, hinput.trans hstart.inputTokens,
    houtput.trans hstart.outputTokens⟩

namespace Enhancer

variable {enhancer : Enhancer (StateM FileTree)} {spec : Spec} {asked : Nat} {directory : String}
  {report : EmitReport} {questions : List Question} {tree tree' : FileTree}

/-- The questions of a project that is written are those of its plan, and its report counts the
replies but for a blank one about the agent. -/
theorem exists_plan_of_emit
    (h : (enhancer.emit spec asked directory).run.run tree = (.ok (report, questions), tree')) :
    ∃ plan, ProjectPlan.make spec enhancer.settings enhancer.assistant? asked directory = some plan ∧
      questions = plan.toolQuestions enhancer.assistant?
        ++ (plan.agentQuestion? enhancer.assistant?).toList ∧
      report.Accounts (plan.toolReplies enhancer.assistant? asked
        ++ (plan.agentReplies enhancer.assistant? asked).filter
            fun reply => !Text.isBlankText reply.content) := by
  obtain ⟨plan, hplan, hwritten, rfl⟩ := emit_cases h
  have hstart := EmitReport.accounts_start (ProjectPlan.usages_make hplan)
  exact ⟨plan, hplan, ProjectPlan.questions_make hplan, Writer.accounts_emit hstart hwritten⟩

/-- The report of a project that is written accounts for the replies to the questions about tools,
and for the reply about the agent where that is not blank.  So it accounts for every reply of the
run exactly where no blank one came to the question about the agent. -/
theorem accounts_emit_iff
    (h : (enhancer.emit spec asked directory).run.run tree = (.ok (report, questions), tree')) :
    ∃ plan, ProjectPlan.make spec enhancer.settings enhancer.assistant? asked directory = some plan ∧
      let toolReplies := plan.toolReplies enhancer.assistant? asked
      let agentReplies := plan.agentReplies enhancer.assistant? asked
      let answered := ((enhancer.assistant?.map Assistant.model).getD .silent).answered asked questions
      answered = toolReplies ++ agentReplies ∧
        report.Accounts
          (toolReplies ++ agentReplies.filter fun reply => !Text.isBlankText reply.content) ∧
        (report.Accounts answered ↔
          ∀ reply ∈ agentReplies, Text.isBlankText reply.content = false) := by
  obtain ⟨plan, hplan, rfl, haccounts⟩ := exists_plan_of_emit h
  have hanswered := LanguageModel.answered_append
    ((enhancer.assistant?.map Assistant.model).getD .silent) asked
    (plan.toolQuestions enhancer.assistant?) (plan.agentQuestion? enhancer.assistant?).toList
  refine ⟨plan, hplan, hanswered, haccounts, ?_⟩
  rw [hanswered]
  exact haccounts.accounts_append_iff

/-- A description of one operation that has no text. -/
def bareSpec : Spec := ⟨.object [("paths", .object [("/notes", .object [("get", .object [])])])]⟩

/-- A model that describes the tool and then replies with the given text. -/
def instructor (text : String) : Assistant where
  model number _ := some ⟨if number = 0 then "Lists notes." else text, .reported 4 number⟩
  prompts? := some ⟨⟨"Describe.", "?"⟩, ⟨"Describe.", "?"⟩, some ⟨"Describe.", "?"⟩,
    some ⟨"Instruct.", "?"⟩⟩

/-- A run in which nothing is written, for a project with an agent. -/
def agentRun (text : String) : Enhancer (StateM FileTree) where
  settings := { generateAgent := true, overlay := { describeTools := true } }
  assistant? := some (instructor text)
  writer := ⟨none, true⟩
  thresholds := {}
  clock := pure .zero

/-- Where the model writes the task of the agent, both calls count. -/
theorem accounts_emit_iff_agentRun :
    ∃ report questions tree,
      ((agentRun "Be kind.").emit bareSpec 0 "out").run.run .empty
        = (.ok (report, questions), tree) ∧
      report.Accounts [⟨"Lists notes.", .reported 4 0⟩, ⟨"Be kind.", .reported 4 1⟩] := by
  have hok : (((agentRun "Be kind.").emit bareSpec 0 "out").run.run .empty).1.isOk = true := rfl
  have hreplies : (ProjectPlan.make bareSpec (agentRun "Be kind.").settings
        (agentRun "Be kind.").assistant? 0 "out").map (fun plan =>
          (plan.toolReplies (agentRun "Be kind.").assistant? 0,
            plan.agentReplies (agentRun "Be kind.").assistant? 0))
      = some ([⟨"Lists notes.", .reported 4 0⟩], [⟨"Be kind.", .reported 4 1⟩]) :=
    rfl
  obtain ⟨⟨report, questions⟩, tree, hrun⟩ := exists_run_of_isOk hok
  obtain ⟨plan, hplan, hanswered, -, haccounts⟩ := accounts_emit_iff hrun
  rw [hplan, Option.map_some, Option.some_inj, Prod.mk.injEq] at hreplies
  rw [hanswered, hreplies.1, hreplies.2] at haccounts
  refine ⟨report, questions, tree, hrun, haccounts.mpr ?_⟩
  simp only [List.forall_mem_singleton]
  decide

/-- Where the model has nothing to say to the agent, its second call is missing in the report. -/
theorem not_accounts_emit :
    ¬ ∀ (enhancer : Enhancer (StateM FileTree)) (spec : Spec) (asked : Nat) (directory : String)
      (report : EmitReport) (questions : List Question) (tree tree' : FileTree),
      (enhancer.emit spec asked directory).run.run tree = (.ok (report, questions), tree') →
        report.Accounts
          (((enhancer.assistant?.map Assistant.model).getD .silent).answered asked questions) := by
  intro hall
  have hcounts : (((agentRun " ").emit bareSpec 0 "out").run.run .empty).1.toOption.map
      (fun found => (found.1.calls, ((instructor " ").model.answered 0 found.2).length))
        = some (1, 2) :=
    rfl
  rcases hrun : ((agentRun " ").emit bareSpec 0 "out").run.run .empty with ⟨cause | found, tree⟩
  · rw [hrun] at hcounts
    cases hcounts
  have hcalls := (hall _ _ _ _ _ _ _ _ hrun).calls
  rw [hrun] at hcounts
  obtain ⟨hcounted, hanswered⟩ := Prod.mk.inj (Option.some.inj hcounts)
  exact absurd (hcounted.symm.trans (hcalls.trans hanswered)) (by decide)

end Enhancer

end ApiTools
