import ApiTools.Proofs.Document.Created
import ApiTools.Proofs.Overlay.Overwritten

/-!
# What a path selects after an update

An update either overwrites what its path selects or creates the one location that the path names.
Search and write take the same steps, but they do not read them alike: a write takes a position for
the key of an object, and digits that are too many for a position for the end of a list, where a
search finds nothing.  `Document.Finds` says of one container that the two agree, and
`Document.Leads` of all containers on the way.  What a search selects of a container after a write
(`Put.select_of_finds`, `Put.select_of_not_finds`) gives what it finds after the whole write
(`find_setAt`): the place of the value where the way leads to it, and otherwise nothing.
-/

namespace ApiTools

variable {doc after child value : Document} {step own : Step} {steps rest before : List Step}
  {path : JsonPath} {action : OverlayAction} {outcome : ActionOutcome}

namespace Document

/-! ### Containers -/

/-- Does a search find at the step what a write puts there?  A position does not lead into an
object, nor do digits into a list that are too many for a position. -/
def Finds : Document → Step → Prop
  | object _, .index _ => False
  | list _, step => step.position?.isSome = true
  | _, _ => True

/-- At each of the containers on the way a search finds what a write puts there. -/
def Leads (doc : Document) (steps : List Step) : Prop :=
  ∀ before step rest, steps = before ++ step :: rest →
    ∀ node, doc.node? (doc.ownSteps before) = some node → node.Finds step

namespace Put

/-- A search finds the child. -/
theorem select_of_finds (h : Put step own child doc after) (hfinds : after.Finds step) :
    step.segment.select after = [(own, child)] := by
  have hself := h.child?_self
  cases h with
  | member hown =>
    subst hown
    cases step with
    | key name => exact JsonPath.select_segment hself
    | index position => exact hfinds.elim
  | @item items position filler hnumeric hposition hown =>
    subst hown
    obtain ⟨place, hstep⟩ := Option.isSome_iff_exists.mp hfinds
    obtain rfl : place = position := by rwa [hstep, Option.getD_some] at hposition
    cases step with
    | key name =>
      -- A key of digits selects what the position selects that they denote.
      have hname : positionOfKey? name = some place := hstep
      rw [← JsonPath.select_segment hself]
      show ((positionOfKey? name).bind (Segment.item? _)).toList = _
      rw [hname, Option.bind_some]
      rfl
    | index other =>
      obtain rfl : other = place := Option.some.inj hstep
      exact JsonPath.select_segment hself

/-- Where a search does not find the child, it finds nothing. -/
theorem select_of_not_finds (h : Put step own child doc after) (hfinds : ¬ after.Finds step) :
    step.segment.select after = [] := by
  cases h with
  | member hown =>
    cases step with
    | key name => exact absurd trivial hfinds
    | index position => rfl
  | @item items position filler hnumeric hposition hown =>
    have hstep : step.position? = none := Option.not_isSome_iff_eq_none.mp hfinds
    cases step with
    | key name =>
      have hname : positionOfKey? name = none := hstep
      show ((positionOfKey? name).bind (Segment.item? _)).toList = _
      rw [hname]
      rfl
    | index other => cases hstep

/-- The way leads on where the container does and the rest of the way. -/
theorem leads_cons_iff (h : Put step own child doc after) (rest : List Step) :
    after.Leads (step :: rest) ↔ after.Finds step ∧ child.Leads rest := by
  constructor
  · intro hleads
    refine ⟨hleads [] step rest rfl after rfl, fun before next more hrest node hnode => ?_⟩
    refine hleads (step :: before) next more (by rw [hrest]; rfl) node ?_
    rwa [h.ownSteps_cons, h.node?_cons]
  · rintro ⟨hfinds, hleads⟩ before next more hsteps node hnode
    cases before with
    | nil =>
      obtain ⟨rfl, -⟩ := List.cons.inj hsteps
      cases Option.some.inj hnode
      exact hfinds
    | cons first before =>
      obtain ⟨rfl, hrest⟩ := List.cons.inj hsteps
      rw [h.ownSteps_cons, h.node?_cons] at hnode
      exact hleads before next more hrest node hnode

end Put

end Document

/-! ### Paths -/

namespace JsonPath

open Document

/-- The search along the steps of a write, from any place: it finds the value where the way leads to
it, and otherwise nothing. -/
theorem foldl_expand_setAt (h : doc.setAt steps value = (after, none)) (place : List Step) :
    (after.Leads steps → (steps.map Step.segment).foldl expand [(place, after)]
        = [(place ++ after.ownSteps steps, value)]) ∧
      (¬ after.Leads steps → (steps.map Step.segment).foldl expand [(place, after)] = []) := by
  induction steps generalizing doc after place with
  | nil =>
    obtain ⟨rfl, -⟩ := Prod.mk.inj h
    refine ⟨fun _ => by rw [ownSteps, List.append_nil]; rfl, fun hnot => absurd ?_ hnot⟩
    intro before step rest hsteps
    cases before <;> cases hsteps
  | cons step rest ih =>
    obtain ⟨own, child, hput, hchild⟩ := exists_put h
    obtain ⟨hfound, hlost⟩ := ih hchild (place ++ [own])
    have hnothing : ∀ segments : List Segment, segments.foldl expand [] = [] := by
      intro segments
      induction segments with
      | nil => rfl
      | cons segment rest ih => exact ih
    rw [hput.leads_cons_iff, hput.ownSteps_cons, List.map_cons, List.foldl_cons, expand,
      List.flatMap_singleton]
    by_cases hfinds : after.Finds step
    · rw [List.append_assoc] at hfound
      simp only [hput.select_of_finds hfinds, List.map_singleton, hfinds, true_and]
      exact ⟨hfound, hlost⟩
    · simp only [hput.select_of_not_finds hfinds, List.map_nil, hfinds, false_and]
      exact ⟨False.elim, fun _ => hnothing _⟩

theorem eq_ofSteps (h : path.steps? = some steps) : path = ofSteps steps := by
  obtain ⟨segments⟩ := path
  change segments.mapM Segment.step? = some steps at h
  refine congrArg JsonPath.mk ?_
  induction segments generalizing steps with
  | nil =>
    cases h
    rfl
  | cons segment rest ih =>
    rw [List.mapM_cons] at h
    obtain ⟨step, hstep, h⟩ := Option.bind_eq_some_iff.mp h
    obtain ⟨more, hmore, h⟩ := Option.bind_eq_some_iff.mp h
    cases h
    rw [List.map_cons, ← ih hmore]
    cases segment <;> cases hstep <;> rfl

/-- After a write a path finds the place of the value where its way leads there, and otherwise
nothing. -/
theorem find_setAt (hsteps : path.steps? = some steps)
    (h : doc.setAt steps value = (after, none)) :
    (after.Leads steps → path.find after = [after.ownSteps steps]) ∧
      (¬ after.Leads steps → path.find after = []) := by
  obtain ⟨hfound, hlost⟩ := foldl_expand_setAt h []
  rw [eq_ofSteps hsteps]
  unfold find ofSteps
  refine ⟨fun hleads => ?_, fun hleads => ?_⟩
  · rw [hfound hleads]
    rfl
  · rw [hlost hleads]
    rfl

/-- An update that succeeds overwrites what was found, or it writes where nothing was found. -/
theorem update_eq_ok (h : path.update doc value = (after, .ok outcome)) :
    (outcome = .applied ∧ path.find doc ≠ [] ∧
        after = (path.find doc).foldl (fun doc steps => doc.replaceAt steps value) doc) ∨
      (outcome = .created ∧ path.find doc = [] ∧
        ∃ steps, path.steps? = some steps ∧ doc.setAt steps value = (after, none)) := by
  unfold update at h
  split at h
  · next hnone =>
    right
    split at h
    · cases h
    · next steps hsteps =>
      split at h
      · next written hset =>
        cases h
        exact ⟨rfl, hnone, steps, hsteps, hset⟩
      · cases h
  · next hsome =>
    cases h
    exact .inl ⟨rfl, hsome, rfl⟩

end JsonPath

/-! ### Updates -/

namespace OverlayAction

open Document

/-- An action with a new value that is not skipped updates what its path names. -/
theorem exists_of_apply (hupdate : action.update? = some value)
    (h : action.apply doc = (after, .ok outcome)) (houtcome : outcome ≠ .skipped) :
    ∃ path, JsonPath.read action.target = .ok path ∧
      path.update doc value = (after, .ok outcome) := by
  unfold apply at h
  split at h
  · cases h
    exact absurd rfl houtcome
  · cases hread : JsonPath.read action.target with
    | error cause =>
      simp only [JsonPath.readTarget, hread] at h
      cases h
    | ok path =>
      simp only [JsonPath.readTarget, hread, hupdate] at h
      exact ⟨path, rfl, h⟩

/-- After an action with a new value that is not skipped, each node that its path selects holds the
value.  The path selects a node where it did so before.  Where the node was created, the path
selects it where its way leads there, and otherwise it selects nothing. -/
theorem apply_found (hupdate : action.update? = some value)
    (happly : action.apply doc = (after, .ok outcome)) (houtcome : outcome ≠ .skipped)
    (hkeys : doc.HasDistinctKeys) (hvalue : value.HasDistinctKeys) :
    ∃ path, JsonPath.read action.target = .ok path ∧
      (∀ place ∈ path.find after, after.getAt? place = some value) ∧
      (outcome = .applied → path.find after ≠ []) ∧
      (outcome = .created → ∃ steps, path.steps? = some steps ∧
        (path.find after ≠ [] ↔ after.Leads steps)) := by
  obtain ⟨path, hread, hwritten⟩ := exists_of_apply hupdate happly houtcome
  refine ⟨path, hread, ?_⟩
  rcases JsonPath.update_eq_ok hwritten with
    ⟨rfl, hfound, rfl⟩ | ⟨rfl, hnone, steps, hsteps, hset⟩
  · have hplaces : ∀ place ∈ path.find doc,
        place.length = path.segments.length ∧ (doc.node? place).isSome :=
      fun place hplace => JsonPath.place_of_mem_find hkeys hplace
    have hover := overwritten_foldl hplaces value
    rw [JsonPath.find_foldl_replaceAt hkeys hvalue hplaces]
    refine ⟨fun place hplace => ?_, fun _ => hfound, fun heq => by cases heq⟩
    exact getAt?_of_node? (hover.written place hplace)
  · obtain ⟨hleads, hlost⟩ := JsonPath.find_setAt hsteps hset
    refine ⟨fun place hplace => ?_, fun heq => ?_, fun _ => ⟨steps, hsteps, fun hfind => ?_,
      fun hway => ?_⟩⟩
    · by_cases hway : after.Leads steps
      · rw [hleads hway, List.mem_singleton] at hplace
        rw [hplace]
        exact getAt?_of_node? (node?_ownSteps hset)
      · rw [hlost hway] at hplace
        cases hplace
    · cases heq
    · by_contra hway
      exact hfind (hlost hway)
    · rw [hleads hway]
      exact List.cons_ne_nil _ _

/-- Digits that lead past the end of a list. -/
theorem apply_found_digits :
    let doc : Document := object [("rows", list [null]), ("n", ofNat 1)]
    let after : Document := object [("rows", list [null, object [("x", text "v")]]), ("n", ofNat 1)]
    let path : JsonPath := ⟨[.key "rows", .key "1", .key "x"]⟩
    let action : OverlayAction := ⟨"$.rows['1'].x", some (text "v"), none⟩
    JsonPath.read action.target = .ok path ∧ action.apply doc = (after, .ok .created) ∧
      doc.HasDistinctKeys ∧ (text "v").HasDistinctKeys ∧
      path.find after = [[.key "rows", .index 1, .key "x"]] ∧
      after.getAt? [.key "rows", .index 1, .key "x"] = some (text "v") := by
  intro doc after path action
  have hread : JsonPath.read action.target = .ok path := by decide
  have happly : action.apply doc = (after, .ok .created) := by
    rw [apply_of_update hread rfl]
    rfl
  have hkeys : doc.HasDistinctKeys := by decide
  have hvalue : (text "v").HasDistinctKeys := by decide
  obtain ⟨other, hother, hholds, -, -⟩ := apply_found rfl happly (by decide) hkeys hvalue
  obtain rfl : other = path := Except.ok.inj (hother.symm.trans hread)
  have hfind : path.find after = [[.key "rows", .index 1, .key "x"]] := by decide
  exact ⟨hread, happly, hkeys, hvalue, hfind, hholds _ (hfind ▸ .head _)⟩

/-- A position that was taken for the key of an object selects nothing afterwards. -/
theorem not_apply_found :
    ¬ ∀ (doc after value : Document) (action : OverlayAction) (outcome : ActionOutcome),
      action.update? = some value → action.apply doc = (after, .ok outcome) →
      outcome ≠ .skipped → doc.HasDistinctKeys → value.HasDistinctKeys →
      ∃ path, JsonPath.read action.target = .ok path ∧ path.find after ≠ [] ∧
        ∀ place ∈ path.find after, after.getAt? place = some value := by
  intro h
  have hread : JsonPath.read "$.rows[0]" = .ok ⟨[.key "rows", .index 0]⟩ := by decide
  have happly : OverlayAction.apply ⟨"$.rows[0]", some (text "x"), none⟩
        (object [("rows", object [])])
      = (object [("rows", object [("0", text "x")])], .ok .created) := by
    rw [apply_of_update hread rfl]
    rfl
  obtain ⟨path, hpath, hfind, -⟩ := h _ _ _ _ _ rfl happly (by decide) (by decide) (by decide)
  obtain rfl : path = _ := Except.ok.inj (hpath.symm.trans hread)
  exact hfind (by decide)

end OverlayAction

end ApiTools
