import ApiTools.Overlay
import ApiTools.Proofs.Document.Writing

/-!
# Skipped actions

An action that cannot be carried out is counted as skipped and leaves no trace in the document.
The step is `applyAction_cases`: an action either leaves document and counts as they are but for
one more skipped action, or it is applied, and then it neither reads nor changes the number of
skipped ones.  By induction over the actions a run without those that are skipped ends in the same
document and the same counts (`foldl_unskipped`).
-/

namespace ApiTools

open Document

variable {doc after value : Document} {path : JsonPath} {action : OverlayAction}
  {state : Document × ApplyStats}

/-! ### One action -/

/-- An update that fails leaves the document as it was, and no update is skipped otherwise. -/
theorem JsonPath.update_cases (path : JsonPath) (doc value : Document) :
    (∃ cause, path.update doc value = (doc, .error cause)) ∨
      ∃ after, path.update doc value = (after, .ok .applied) ∨
        path.update doc value = (after, .ok .created) := by
  unfold update
  split
  · split
    · exact .inl ⟨_, rfl⟩
    · rename_i steps _
      split
      · exact .inr ⟨_, .inr rfl⟩
      · rename_i written cause hset
        have hkept := @fst_setAt_of_error doc steps value (by simp [hset])
        rw [hset] at hkept
        obtain rfl : written = doc := hkept
        exact .inl ⟨_, rfl⟩
  · exact .inr ⟨_, .inl rfl⟩

/-- What becomes of an action: it is skipped and the document stays, or it is applied. -/
theorem OverlayAction.apply_cases (action : OverlayAction) (doc : Document) :
    ((action.apply doc).1 = doc ∧ (action.apply doc).2.toOption.getD .skipped = .skipped) ∨
      (action.apply doc).2.toOption.getD .skipped ≠ .skipped := by
  unfold apply
  split
  · exact .inl ⟨rfl, rfl⟩
  · split
    · exact .inl ⟨rfl, rfl⟩
    · rename_i path _
      split
      · rename_i value _
        rcases path.update_cases doc value with ⟨cause, h⟩ | ⟨after, h | h⟩
        · rw [h]
          exact .inl ⟨rfl, rfl⟩
        · rw [h]
          exact .inr (by simp [Except.toOption])
        · rw [h]
          exact .inr (by simp [Except.toOption])
      · split
        · exact .inr (by simp [Except.toOption])
        · exact .inl ⟨rfl, rfl⟩

namespace Overlay

theorem applyAction_eq (state : Document × ApplyStats) (action : OverlayAction) :
    applyAction state action = ((action.apply state.1).1,
      state.2.add ((action.apply state.1).2.toOption.getD .skipped)) := rfl

/-- One step of a run: the action is counted as skipped and the document stays, or the action is
applied in the same way whatever the counts are. -/
theorem applyAction_cases (state : Document × ApplyStats) (action : OverlayAction) :
    applyAction state action = (state.1, state.2.add .skipped) ∨
      ∃ after outcome, outcome ≠ .skipped ∧
        ∀ stats, applyAction (state.1, stats) action = (after, stats.add outcome) := by
  rcases action.apply_cases state.1 with ⟨hdoc, houtcome⟩ | houtcome
  · left
    rw [applyAction_eq, hdoc, houtcome]
  · exact .inr ⟨(action.apply state.1).1, _, houtcome, fun stats => rfl⟩

/-- One more action is counted once, and as created only where it is counted as applied. -/
theorem counts_applyAction (state : Document × ApplyStats) (action : OverlayAction) :
    (applyAction state action).2.applied + (applyAction state action).2.skipped
        = state.2.applied + state.2.skipped + 1 ∧
      (applyAction state action).2.created + state.2.applied
        ≤ state.2.created + (applyAction state action).2.applied := by
  rw [applyAction_eq]
  cases (action.apply state.1).2.toOption.getD .skipped <;> simp only [ApplyStats.add] <;> omega

/-- An action that is applied leaves the number of skipped ones. -/
theorem skipped_add {outcome : ActionOutcome} (h : outcome ≠ .skipped) (stats : ApplyStats) :
    (stats.add outcome).skipped = stats.skipped := by
  cases outcome with
  | skipped => exact absurd rfl h
  | _ => rfl

theorem skipped_add_skipped (stats : ApplyStats) :
    (stats.add .skipped).skipped ≠ stats.skipped := Nat.succ_ne_self _

/-! ### A run of actions -/

/-- The actions that are not counted as skipped in a run from a state. -/
def unskipped : Document × ApplyStats → List OverlayAction → List OverlayAction
  | _, [] => []
  | state, action :: rest =>
    let next := applyAction state action
    if next.2.skipped = state.2.skipped then action :: unskipped next rest else unskipped next rest

/-- The overlay without the actions that are counted as skipped when it is applied. -/
def withoutSkipped (overlay : Overlay) (doc : Document) : Overlay :=
  { overlay with actions := unskipped (doc, .zero) overlay.actions }

/-- The document and the counts after a number of actions. -/
def stateAfter (overlay : Overlay) (doc : Document) (count : Nat) : Document × ApplyStats :=
  (overlay.actions.take count).foldl applyAction (doc, .zero)

/-- Every action of a run is counted once, and as created only where it is counted as applied. -/
theorem counts_foldl (actions : List OverlayAction) (state : Document × ApplyStats) :
    (actions.foldl applyAction state).2.applied + (actions.foldl applyAction state).2.skipped
        = state.2.applied + state.2.skipped + actions.length ∧
      (actions.foldl applyAction state).2.created + state.2.applied
        ≤ state.2.created + (actions.foldl applyAction state).2.applied := by
  induction actions generalizing state with
  | nil => exact ⟨rfl, Nat.le_refl _⟩
  | cons action rest ih =>
    obtain ⟨hcount, hcreated⟩ := ih (applyAction state action)
    obtain ⟨hcount', hcreated'⟩ := counts_applyAction state action
    rw [List.foldl_cons, List.length_cons]
    constructor <;> omega

/-- A step that is counted as skipped leaves the document. -/
theorem fst_applyAction_of_skipped (h : (applyAction state action).2.skipped ≠ state.2.skipped) :
    (applyAction state action).1 = state.1 := by
  rcases applyAction_cases state action with hskip | ⟨after, outcome, houtcome, happly⟩
  · rw [hskip]
  · have happly : applyAction state action = (after, state.2.add outcome) := happly state.2
    rw [happly] at h
    exact absurd (skipped_add houtcome state.2) h

/-- A run of the actions that are not skipped ends in the same document, with the same numbers of
actions that are applied and of those that create their target. -/
theorem foldl_unskipped (actions : List OverlayAction) (state : Document × ApplyStats)
    {stats : ApplyStats} (happlied : stats.applied = state.2.applied)
    (hcreated : stats.created = state.2.created) :
    (unskipped state actions).foldl applyAction (state.1, stats)
      = ((actions.foldl applyAction state).1,
        { (actions.foldl applyAction state).2 with skipped := stats.skipped }) := by
  induction actions generalizing state stats with
  | nil =>
    obtain ⟨applied, skipped, created⟩ := stats
    obtain rfl : applied = state.2.applied := happlied
    obtain rfl : created = state.2.created := hcreated
    rfl
  | cons action rest ih =>
    rw [unskipped, List.foldl_cons]
    rcases applyAction_cases state action with hskip | ⟨after, outcome, houtcome, happly⟩
    · rw [hskip, if_neg (skipped_add_skipped state.2)]
      exact ih (state.1, state.2.add .skipped) happlied hcreated
    · have hstep : applyAction state action = (after, state.2.add outcome) := happly state.2
      rw [hstep, if_pos (skipped_add houtcome state.2), List.foldl_cons, happly stats,
        @ih (after, state.2.add outcome) (stats.add outcome), skipped_add houtcome]
      · cases outcome <;> simp [ApplyStats.add, happlied]
      · cases outcome <;> simp [ApplyStats.add, hcreated]

/-! ### The whole overlay -/

theorem stateAfter_succ (overlay : Overlay) (doc : Document) (count : Nat) :
    overlay.stateAfter doc (count + 1)
      = overlay.actions[count]?.elim (overlay.stateAfter doc count)
          (applyAction (overlay.stateAfter doc count)) := by
  unfold stateAfter
  rw [List.take_add_one, List.foldl_append]
  cases overlay.actions[count]? <;> rfl

/-- A write that fails leaves the document as it was.  So each action that is counted as skipped
leaves it as it was; each action is counted as applied or as skipped, and as created only where it
is applied; and the overlay without the skipped actions does the same. -/
theorem apply_withoutSkipped (overlay : Overlay) (doc : Document) :
    (∀ (doc : Document) (steps : List Step) (value : Document),
      (doc.setAt steps value).2.isSome → (doc.setAt steps value).1 = doc) ∧
    (∀ count, (overlay.stateAfter doc (count + 1)).2.skipped
        ≠ (overlay.stateAfter doc count).2.skipped →
      (overlay.stateAfter doc (count + 1)).1 = (overlay.stateAfter doc count).1) ∧
    (overlay.apply doc).2.applied + (overlay.apply doc).2.skipped = overlay.actions.length ∧
    (overlay.apply doc).2.created ≤ (overlay.apply doc).2.applied ∧
    (overlay.withoutSkipped doc).apply doc
      = ((overlay.apply doc).1, { (overlay.apply doc).2 with skipped := 0 }) := by
  obtain ⟨hcount, hcreated⟩ := counts_foldl overlay.actions (doc, .zero)
  refine ⟨fun _ _ _ => fst_setAt_of_error, ?_, ?_, ?_, ?_⟩
  · intro count
    rw [stateAfter_succ]
    cases overlay.actions[count]? with
    | none => exact fun _ => rfl
    | some action => exact fst_applyAction_of_skipped
  · unfold apply
    simpa [ApplyStats.zero] using hcount
  · unfold apply
    simpa [ApplyStats.zero] using hcreated
  · exact foldl_unskipped overlay.actions (doc, .zero) rfl rfl

end Overlay

end ApiTools
