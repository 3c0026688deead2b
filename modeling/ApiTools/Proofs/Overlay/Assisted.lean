import ApiTools.Proofs.Overlay.Generated
import ApiTools.Proofs.Overlay.Targets
import Mathlib.Algebra.GroupWithZero.Nat
import Mathlib.Data.List.Forall2

/-!
# What a language model changes in a generated overlay

A generated overlay is compared with the one that rules alone give.  Both are about the same places
in the same order, so the tasks and the places are related one by one (`forall₂_tasks`).  A task
whose question is answered with a text takes this text, and every other task keeps the text from
rules; the replies go to the tasks that ask, in order.  `text_outcomes`, `usages_outcomes` and
`failures_outcomes` say this of a run over the tasks by induction, and `generate_assisted` of the
overlay and its statistics.
-/

namespace ApiTools

/-- The settings with which no language model is asked. -/
def OverlaySettings.withoutModel (settings : OverlaySettings) : OverlaySettings :=
  { settings with useModel := false }

namespace TextSlot

/-- Is a language model asked for the text?  Summaries are written by rules alone. -/
def isAsked : TextSlot → Bool
  | summary => false
  | _ => true

/-- The text of a reply as it is used: the description of a parameter is cut. -/
def limited (settings : OverlaySettings) : TextSlot → String → String
  | parameter _, text => Text.cutMarked text settings.maxDescriptionLength
  | _, text => text

end TextSlot

/-- What a language model replies to the questions, after the given number of them. -/
def LanguageModel.answers (model : LanguageModel) (asked : Nat) (questions : List Question) :
    List (Option Reply) :=
  (questions.zipIdx asked).map fun entry => model entry.2 entry.1

/-- What was replied to the questions that were asked for an overlay. -/
def GeneratedOverlay.replies (generated : GeneratedOverlay) (assistant? : Option Assistant) :
    List (Option Reply) :=
  ((assistant?.map Assistant.model).getD .silent).answers 0 generated.questions

/-- Was the model asked in vain?  Then there is no reply, or there is nothing in it. -/
def LanguageModel.isVain (reply? : Option Reply) : Bool :=
  reply?.all fun reply => Text.isBlankText reply.content

namespace Overlay

/-- The text that is set: that of the reply where there is one, or else that from rules. -/
def adopted (settings : OverlaySettings) (slot : TextSlot) (rule : String) :
    Option Reply → String
  | some reply =>
    if Text.isBlankText reply.content then rule
    else slot.limited settings (Text.trim reply.content)
  | none => rule

/-- The texts that are set at the places, given those from rules.  The replies go to the places that
a model is asked about, in order. -/
def adoptedTexts (settings : OverlaySettings) : List TextPlace → (rules : List String) →
    List (Option Reply) → List String
  | place :: places, rule :: rules, replies =>
    if place.slot.isAsked then
      adopted settings place.slot rule replies.head?.join
        :: adoptedTexts settings places rules replies.tail
    else rule :: adoptedTexts settings places rules replies
  | _, _, _ => []

end Overlay

/-! ### Tasks and places -/

/-- The task is about the place: it asks where a model is asked about the place, and it cuts the
reply as the place wants it. -/
structure OverlayTask.IsAt (settings : OverlaySettings) (prompts? : Option Prompts)
    (task : OverlayTask) (place : TextPlace) : Prop where
  target : task.target = place.target
  asked : task.question?.isSome = (prompts?.isSome && place.slot.isAsked)
  limited : prompts?.isSome → ∀ text, task.limited text = place.slot.limited settings text

namespace Overlay

variable {settings : OverlaySettings} {prompts? : Option Prompts} {prompts : Prompts} {spec : Spec}
  {op : Operation} {tasks : List OverlayTask} {places : List TextPlace}

theorem forall₂_parameterTasks (op : Operation) (position : Nat) (parameters : List Document) :
    List.Forall₂ (OverlayTask.IsAt settings prompts?)
      (parameterTasks settings prompts? op position parameters)
      (((parameters.zipIdx position).filter fun entry => !entry.1.has "$ref").map fun entry =>
        ⟨op.path, op.method, .parameter entry.2⟩) := by
  induction parameters generalizing position with
  | nil => exact .nil
  | cons parameter rest ih =>
    rw [parameterTasks, List.zipIdx_cons]
    by_cases hreference : parameter.has "$ref"
    · simpa [hreference] using ih (position + 1)
    · rw [List.filter_cons_of_pos (by simpa using hreference), List.map_cons]
      simp only [hreference]
      refine .cons ⟨?_, ?_, ?_⟩ (ih (position + 1))
      · simp [parameterTask, operationTarget, TextPlace.target, TextSlot.suffix,
          String.append_assoc]
      · cases prompts? <;> rfl
      · cases prompts? with
        | none => simp
        | some prompts => exact fun _ _ => rfl

theorem forall₂_operationTasks (spec : Spec) (op : Operation) :
    List.Forall₂ (OverlayTask.IsAt settings prompts?) (operationTasks settings prompts? spec op)
      (operationPlaces settings op) := by
  unfold operationTasks operationPlaces parameterPlaces
  refine List.rel_append (List.rel_append ?_ ?_) ?_
  · split
    · exact .cons ⟨rfl, by cases prompts? <;> rfl, fun _ _ => rfl⟩ .nil
    · exact .nil
  · split
    · exact .cons ⟨rfl, by cases prompts? <;> rfl, fun _ _ => rfl⟩ .nil
    · exact .nil
  · split
    · exact forall₂_parameterTasks op 0 op.parameters
    · exact .nil

/-- The tasks are about the places, in their order. -/
theorem forall₂_tasks (henabled : settings.enabled = true) (prompts? : Option Prompts)
    (spec : Spec) :
    List.Forall₂ (OverlayTask.IsAt settings prompts?) (Overlay.tasks settings prompts? spec)
      (Overlay.places settings spec) := by
  unfold Overlay.tasks Overlay.places
  rw [if_pos henabled]
  induction spec.operations with
  | nil => exact .nil
  | cons op rest ih => exact List.rel_append (forall₂_operationTasks spec op) ih

/-! ### One reply -/

theorem text_outcomeOf {task : OverlayTask} {place : TextPlace}
    (h : ∀ text, task.limited text = place.slot.limited settings text) (reply? : Option Reply) :
    (task.outcomeOf reply?).text = adopted settings place.slot task.text reply? := by
  unfold OverlayTask.outcomeOf adopted
  cases reply? with
  | none => rfl
  | some reply =>
    dsimp only
    unfold Reply.text?
    by_cases hblank : Text.isBlankText reply.content
    · rw [if_pos hblank, if_pos hblank]
    · rw [if_neg hblank, if_neg hblank]
      exact h _

theorem usage?_outcomeOf (task : OverlayTask) (reply? : Option Reply) :
    (task.outcomeOf reply?).usage? = reply?.map Reply.usage := by
  unfold OverlayTask.outcomeOf
  cases reply? with
  | none => rfl
  | some reply =>
    dsimp only
    cases reply.text? <;> rfl

theorem failed_outcomeOf (task : OverlayTask) (reply? : Option Reply) :
    (task.outcomeOf reply?).failed = LanguageModel.isVain reply? := by
  unfold OverlayTask.outcomeOf LanguageModel.isVain
  cases reply? with
  | none => rfl
  | some reply =>
    dsimp only [Option.all]
    unfold Reply.text?
    by_cases hblank : Text.isBlankText reply.content
    · rw [if_pos hblank, hblank]
    · rw [if_neg hblank]
      simpa using hblank

/-! ### A run over the tasks -/

theorem answers_cons (model : LanguageModel) (asked : Nat) (question : Question)
    (rest : List Question) :
    model.answers asked (question :: rest)
      = model asked question :: model.answers (asked + 1) rest := rfl

theorem usages_outcomes (model : LanguageModel) (asked : Nat) (tasks : List OverlayTask) :
    (OverlayTask.outcomes model asked tasks).filterMap TaskOutcome.usage?
      = (model.answers asked (tasks.filterMap OverlayTask.question?)).filterMap
          (Option.map Reply.usage) := by
  induction tasks generalizing asked with
  | nil => rfl
  | cons task rest ih =>
    rw [OverlayTask.outcomes]
    cases hquestion : task.question? with
    | none =>
      rw [List.filterMap_cons_none (by rfl), List.filterMap_cons_none hquestion]
      exact ih asked
    | some question =>
      rw [List.filterMap_cons_some hquestion, answers_cons, List.filterMap_cons,
        List.filterMap_cons, usage?_outcomeOf, ih]

theorem failures_outcomes (model : LanguageModel) (asked : Nat) (tasks : List OverlayTask) :
    (OverlayTask.outcomes model asked tasks).countP TaskOutcome.failed
      = (model.answers asked (tasks.filterMap OverlayTask.question?)).countP
          LanguageModel.isVain := by
  induction tasks generalizing asked with
  | nil => rfl
  | cons task rest ih =>
    rw [OverlayTask.outcomes]
    cases hquestion : task.question? with
    | none =>
      rw [List.filterMap_cons_none hquestion, List.countP_cons_of_neg (by simp)]
      exact ih asked
    | some question =>
      rw [List.filterMap_cons_some hquestion, answers_cons, List.countP_cons, List.countP_cons,
        failed_outcomeOf, ih]

/-- Without a model the texts are those from rules. -/
theorem text_outcomes_of_none (model : LanguageModel) (asked : Nat)
    (h : List.Forall₂ (OverlayTask.IsAt settings none) tasks places) :
    (OverlayTask.outcomes model asked tasks).map TaskOutcome.text = tasks.map OverlayTask.text := by
  induction h generalizing asked with
  | nil => rfl
  | @cons task place _ _ hfirst _ ih =>
    have hquestion : task.question? = none := by simpa using hfirst.asked
    rw [OverlayTask.outcomes, hquestion, List.map_cons, List.map_cons, ih]

/-- With a model every reply goes to the next task that asks. -/
theorem text_outcomes (model : LanguageModel) (asked : Nat)
    (h : List.Forall₂ (OverlayTask.IsAt settings (some prompts)) tasks places) :
    (OverlayTask.outcomes model asked tasks).map TaskOutcome.text
      = adoptedTexts settings places (tasks.map OverlayTask.text)
          (model.answers asked (tasks.filterMap OverlayTask.question?)) := by
  induction h generalizing asked with
  | nil => rfl
  | @cons task place _ _ hfirst _ ih =>
    have hasked : task.question?.isSome = place.slot.isAsked := hfirst.asked
    rw [OverlayTask.outcomes, List.map_cons (f := OverlayTask.text), adoptedTexts]
    cases hquestion : task.question? with
    | none =>
      rw [hquestion] at hasked
      rw [List.filterMap_cons_none hquestion, ← hasked, List.map_cons, ih]
      rfl
    | some question =>
      rw [hquestion] at hasked
      rw [List.filterMap_cons_some hquestion, answers_cons, ← hasked, List.map_cons, ih,
        text_outcomeOf (hfirst.limited rfl)]
      rfl

/-- Where nothing is replied the texts are those from rules. -/
theorem adoptedTexts_nil (settings : OverlaySettings) {places : List TextPlace}
    {rules : List String} (h : rules.length = places.length) :
    adoptedTexts settings places rules [] = rules := by
  induction places generalizing rules with
  | nil =>
    rw [List.length_eq_zero_iff.mp h]
    rfl
  | cons place places ih =>
    obtain ⟨rule, rules, rfl⟩ := List.exists_cons_of_length_eq_add_one h
    rw [adoptedTexts, List.tail_nil, ih (by simpa using h)]
    exact ite_self _

/-! ### Overlays -/

theorem map_text_parameterTasks (settings : OverlaySettings) (prompts? : Option Prompts)
    (op : Operation) (position : Nat) (parameters : List Document) :
    (parameterTasks settings.withoutModel none op position parameters).map
        OverlayTask.text
      = (parameterTasks settings prompts? op position parameters).map OverlayTask.text := by
  induction parameters generalizing position with
  | nil => rfl
  | cons parameter rest ih =>
    rw [parameterTasks, parameterTasks]
    by_cases hreference : parameter.has "$ref"
    · rw [if_pos hreference, if_pos hreference, ih]
    · rw [if_neg hreference, if_neg hreference, List.map_cons, List.map_cons, ih]
      rfl

/-- The texts from rules do not depend on whether a model is used. -/
theorem map_text_operationTasks (settings : OverlaySettings) (prompts? : Option Prompts)
    (spec : Spec) (op : Operation) :
    (operationTasks settings.withoutModel none spec op).map OverlayTask.text
      = (operationTasks settings prompts? spec op).map OverlayTask.text := by
  unfold operationTasks
  simp only [List.map_append, apply_ite (List.map OverlayTask.text),
    map_text_parameterTasks _ prompts?]
  rfl

theorem map_text_tasks (settings : OverlaySettings) (prompts? : Option Prompts) (spec : Spec) :
    (Overlay.tasks settings.withoutModel none spec).map OverlayTask.text
      = (Overlay.tasks settings prompts? spec).map OverlayTask.text := by
  unfold Overlay.tasks
  rw [List.map_flatMap, List.map_flatMap]
  simp only [map_text_operationTasks settings prompts?]

theorem activePrompts?_withoutModel (settings : OverlaySettings)
    (assistant? : Option Assistant) :
    activePrompts? settings.withoutModel assistant? = none := rfl

theorem actions_ofTasks (spec : Spec) (places : List TextPlace) (texts : List String) :
    (ofTasks spec ((places.map TextPlace.target).zip texts)).actions
      = List.zipWith TextPlace.action places texts := by
  unfold ofTasks
  induction places generalizing texts with
  | nil => rfl
  | cons place places ih =>
    cases texts with
    | nil => rfl
    | cons text texts => exact congrArg (_ :: ·) (ih texts)

/-- The targets of a generated overlay are those of its places. -/
theorem map_target_actions (settings : OverlaySettings) (assistant? : Option Assistant)
    (spec : Spec) :
    (generate settings assistant? spec).overlay.actions.map OverlayAction.target
      = (Overlay.places settings spec).map TextPlace.target := by
  obtain ⟨edits, hplaces, hactions⟩ := actions_generate settings assistant? spec
  rw [hactions, ← hplaces, List.map_map, List.map_map]
  rfl

/-- The questions are asked about the places that a model is asked about. -/
theorem length_questions
    (h : List.Forall₂ (OverlayTask.IsAt settings prompts?) tasks places) :
    (tasks.filterMap OverlayTask.question?).length
      = if prompts?.isSome then places.countP fun place => place.slot.isAsked else 0 := by
  rw [List.length_filterMap_eq_countP]
  induction h with
  | nil => simp
  | @cons task place _ _ hfirst _ ih =>
    rw [List.countP_cons, List.countP_cons, ih, hfirst.asked]
    cases prompts? <;> simp

/-! ### Overlays with and without a model -/

theorem generate_of_not_enabled (henabled : settings.enabled ≠ true)
    (assistant? : Option Assistant) (spec : Spec) :
    generate settings assistant? spec = ⟨ofTasks spec [], statsOf 0 [], []⟩ := by
  unfold generate
  rw [if_pos (by simpa using henabled)]

theorem generate_of_enabled (henabled : settings.enabled = true)
    (assistant? : Option Assistant) (spec : Spec) {tasks : List OverlayTask}
    (htasks : tasks = Overlay.tasks settings (activePrompts? settings assistant?) spec)
    {outcomes : List TaskOutcome} (houtcomes : outcomes
      = OverlayTask.outcomes ((assistant?.map Assistant.model).getD .silent) 0 tasks) :
    generate settings assistant? spec
      = ⟨ofTasks spec ((tasks.map OverlayTask.target).zip (outcomes.map TaskOutcome.text)),
        statsOf spec.operations.length outcomes, tasks.filterMap OverlayTask.question?⟩ := by
  unfold generate
  rw [if_neg (by simp [henabled]), houtcomes, htasks]

theorem actions_generate_of_enabled (henabled : settings.enabled = true)
    (assistant? : Option Assistant) (spec : Spec) :
    (generate settings assistant? spec).overlay.actions
      = List.zipWith TextPlace.action (Overlay.places settings spec)
          ((OverlayTask.outcomes ((assistant?.map Assistant.model).getD .silent) 0
            (Overlay.tasks settings (activePrompts? settings assistant?) spec)).map
              TaskOutcome.text) := by
  rw [generate_of_enabled henabled assistant? spec rfl rfl, ← actions_ofTasks spec]
  unfold Overlay.places
  rw [if_pos henabled, ← map_target_tasks]

/-- The replies to the questions of a generated overlay are those that its tasks get. -/
theorem replies_generate_of_enabled (henabled : settings.enabled = true)
    (assistant? : Option Assistant) (spec : Spec) :
    (generate settings assistant? spec).replies assistant?
      = ((assistant?.map Assistant.model).getD .silent).answers 0
          ((Overlay.tasks settings (activePrompts? settings assistant?) spec).filterMap
            OverlayTask.question?) := by
  rw [generate_of_enabled henabled assistant? spec rfl rfl]
  rfl

/-- The texts of a generated overlay are those that rules give, but where a model was asked and
replied with a text. -/
theorem actions_assisted (settings : OverlaySettings) (assistant? : Option Assistant)
    (spec : Spec) :
    ∃ rules : List String, rules.length = (Overlay.places settings spec).length ∧
      (generate settings.withoutModel assistant? spec).overlay.actions
        = List.zipWith TextPlace.action (Overlay.places settings spec) rules ∧
      (generate settings assistant? spec).overlay.actions
        = List.zipWith TextPlace.action (Overlay.places settings spec)
            (adoptedTexts settings (Overlay.places settings spec) rules
              ((generate settings assistant? spec).replies assistant?)) := by
  by_cases henabled : settings.enabled = true
  · have htasks := forall₂_tasks henabled (activePrompts? settings assistant?) spec
    have hlength : ((Overlay.tasks settings (activePrompts? settings assistant?) spec).map
        OverlayTask.text).length = (Overlay.places settings spec).length := by
      rw [List.length_map, htasks.length_eq]
    refine ⟨_, hlength, ?_, ?_⟩
    · have hruled := @forall₂_tasks settings.withoutModel henabled none spec
      rw [@actions_generate_of_enabled settings.withoutModel henabled,
        activePrompts?_withoutModel, text_outcomes_of_none _ 0 hruled, map_text_tasks]
      rfl
    · rw [actions_generate_of_enabled henabled, replies_generate_of_enabled henabled]
      cases hprompts : activePrompts? settings assistant? with
      | none =>
        -- Nothing is asked, so nothing is replied.
        rw [hprompts] at htasks hlength
        have hquestions := length_questions htasks
        rw [text_outcomes_of_none _ 0 htasks, List.length_eq_zero_iff.mp hquestions]
        exact congrArg _ (adoptedTexts_nil settings hlength).symm
      | some prompts =>
        rw [hprompts] at htasks
        rw [text_outcomes _ 0 htasks]
  · have hruled := @generate_of_not_enabled settings.withoutModel henabled assistant? spec
    rw [hruled, generate_of_not_enabled henabled]
    unfold Overlay.places
    rw [if_neg henabled]
    exact ⟨[], rfl, rfl, rfl⟩

/-- The statistics of a generated overlay count the replies. -/
theorem stats_assisted (settings : OverlaySettings) (assistant? : Option Assistant)
    (spec : Spec) :
    let generated := generate settings assistant? spec
    let answered := (generated.replies assistant?).filterMap id
    generated.stats.calls = answered.length ∧
      generated.stats.inputTokens = (answered.map fun reply => reply.usage.input).sum ∧
      generated.stats.outputTokens = (answered.map fun reply => reply.usage.output).sum ∧
      generated.stats.failures = (generated.replies assistant?).countP LanguageModel.isVain := by
  intro generated answered
  by_cases henabled : settings.enabled = true
  · have husages : (OverlayTask.outcomes ((assistant?.map Assistant.model).getD .silent) 0
        (Overlay.tasks settings (activePrompts? settings assistant?) spec)).filterMap
          TaskOutcome.usage? = answered.map Reply.usage := by
      rw [usages_outcomes, ← replies_generate_of_enabled henabled, List.map_filterMap]
      rfl
    have hfailures := failures_outcomes ((assistant?.map Assistant.model).getD .silent) 0
      (Overlay.tasks settings (activePrompts? settings assistant?) spec)
    rw [← replies_generate_of_enabled henabled] at hfailures
    have hstats : generated.stats = statsOf spec.operations.length _ :=
      congrArg GeneratedOverlay.stats (generate_of_enabled henabled assistant? spec rfl rfl)
    rw [hstats]
    unfold statsOf
    rw [husages]
    refine ⟨?_, ?_, ?_, hfailures⟩
    · exact List.length_map ..
    · exact congrArg total (List.map_map ..)
    · exact congrArg total (List.map_map ..)
  · have hgenerated : generated = _ := generate_of_not_enabled henabled assistant? spec
    have hanswered : answered = [] := by
      unfold answered
      rw [hgenerated]
      rfl
    rw [hanswered, hgenerated]
    exact ⟨rfl, rfl, rfl, rfl⟩

/-- The overlay of a description with a language model, beside the one of the same description
without.  Both have the same targets in the same order, and no target twice.  Every text is the one
from rules, but where a question got a reply that is not blank it is the trimmed reply, which is cut
for parameters.  The statistics count the questions that got a reply and add up their tokens, and
count those that got none or a blank one. -/
theorem generate_assisted (settings : OverlaySettings) (assistant? : Option Assistant)
    (spec : Spec) (distinct : spec.HasDistinctPaths) :
    let assisted := generate settings assistant? spec
    let ruled := generate settings.withoutModel assistant? spec
    let places := Overlay.places settings spec
    let replies := assisted.replies assistant?
    assisted.overlay.actions.map OverlayAction.target
        = ruled.overlay.actions.map OverlayAction.target ∧
      (assisted.overlay.actions.map OverlayAction.target).Nodup ∧
      assisted.questions.length
        = (if (activePrompts? settings assistant?).isSome then
            places.countP fun place => place.slot.isAsked
          else 0) ∧
      (∃ rules : List String, rules.length = places.length ∧
        ruled.overlay.actions = List.zipWith TextPlace.action places rules ∧
        assisted.overlay.actions
          = List.zipWith TextPlace.action places (adoptedTexts settings places rules replies)) ∧
      assisted.stats.calls = (replies.filterMap id).length ∧
      assisted.stats.inputTokens
        = ((replies.filterMap id).map fun reply => reply.usage.input).sum ∧
      assisted.stats.outputTokens
        = ((replies.filterMap id).map fun reply => reply.usage.output).sum ∧
      assisted.stats.failures = replies.countP LanguageModel.isVain := by
  refine ⟨?_, ?_, ?_, actions_assisted settings assistant? spec,
    stats_assisted settings assistant? spec⟩
  · rw [map_target_actions, map_target_actions]
    rfl
  · rw [map_target_actions]
    exact (nodup_places settings distinct).map fun _ _ => TextPlace.target_injective
  · by_cases henabled : settings.enabled = true
    · rw [generate_of_enabled henabled assistant? spec rfl rfl]
      exact length_questions (forall₂_tasks henabled _ spec)
    · rw [generate_of_not_enabled henabled]
      unfold Overlay.places
      rw [if_neg henabled]
      exact (ite_self 0).symm

/-- A model that has nothing to say about the operation and describes the parameter. -/
def pageAssistant : Assistant where
  model number _ := some ⟨if number = 0 then " " else " Page. ", .reported 4 number⟩
  prompts? := some ⟨⟨"Describe.", "?"⟩, ⟨"Describe.", "?"⟩, none, none⟩

/-- The description of the operation stays the one from rules, and so does its summary, which the
model is not asked about. -/
theorem generate_assisted_notesSpec :
    notesSpec.HasDistinctPaths ∧
    let assisted := generate {} (some pageAssistant) notesSpec
    let ruled := generate (OverlaySettings.withoutModel {}) (some pageAssistant) notesSpec
    (assisted.stats.calls = 2 ∧ assisted.stats.inputTokens = 8 ∧ assisted.stats.outputTokens = 1 ∧
      assisted.stats.failures = 1) ∧
    ∃ first second third,
      ruled.overlay.actions.map OverlayAction.update?
        = [some (.text first), some (.text second), some (.text third)] ∧
      assisted.overlay.actions.map OverlayAction.update?
        = [some (.text first), some (.text second), some (.text "Page.")] := by
  have hdistinct : notesSpec.HasDistinctPaths := by decide
  obtain ⟨-, -, hlength, ⟨rules, hrules, hruled, hassisted⟩, hcalls, hinput, houtput, hfailures⟩ :=
    generate_assisted {} (some pageAssistant) notesSpec hdistinct
  have hplaces : places {} notesSpec
      = [⟨"/it's", .get, .description⟩, ⟨"/it's", .get, .summary⟩,
        ⟨"/it's", .get, .parameter 0⟩] := by decide
  have hasked : (generate {} (some pageAssistant) notesSpec).questions.length = 2 := by
    rw [hlength, hplaces]
    rfl
  obtain ⟨first, second, hquestions⟩ := List.length_eq_two.mp hasked
  have hreplies : (generate {} (some pageAssistant) notesSpec).replies (some pageAssistant)
      = [some ⟨" ", .reported 4 0⟩, some ⟨" Page. ", .reported 4 1⟩] := by
    unfold GeneratedOverlay.replies
    rw [hquestions]
    rfl
  rw [hplaces] at hrules hruled hassisted
  obtain ⟨first, second, third, rfl⟩ := List.length_eq_three.mp hrules
  rw [hreplies] at hassisted hcalls hinput houtput hfailures
  refine ⟨hdistinct, ⟨hcalls, hinput, houtput, hfailures⟩, first, second, third, ?_, ?_⟩
  · rw [hruled]
    rfl
  · rw [hassisted]
    rfl

end Overlay

end ApiTools
