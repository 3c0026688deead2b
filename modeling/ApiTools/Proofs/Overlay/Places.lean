import ApiTools.Overlay.Generate
import ApiTools.Proofs.JsonPath.Grammar
import ApiTools.Proofs.JsonPath.Update
import ApiTools.Proofs.Spec.Operations

/-!
# The places of a generated overlay

A `TextPlace` is one text of an operation that an overlay may set: its description, its summary, or
the description of one of its parameters.  `Overlay.places` lists those that a generated overlay
does set, and `map_target_tasks` says that its targets are written for them.  A target is read as
the steps to its place (`readTarget_target`) unless the path of the operation has a backslash, and
no place lies on the way to another (`apart_of_ne`).
-/

namespace ApiTools

/-- Which text of an operation is set. -/
inductive TextSlot where
  | description
  | summary
  /-- The description of the parameter at a position. -/
  | parameter (position : Nat)
  deriving DecidableEq, Repr

/-- A text of an operation. -/
structure TextPlace where
  /-- The key of the operation's path. -/
  path : String
  method : Method
  slot : TextSlot
  deriving DecidableEq, Repr

namespace TextSlot

/-- The steps from the operation to the object that holds the text. -/
def owner : TextSlot → List Step
  | parameter position => [.key "parameters", .index position]
  | _ => []

/-- The key of the text. -/
def key : TextSlot → String
  | summary => "summary"
  | _ => "description"

/-- What the target says after the operation. -/
def suffix : TextSlot → String
  | description => ".description"
  | summary => ".summary"
  | parameter position => ".parameters[" ++ natText position ++ "].description"

/-- Can the position be written? -/
def Fits : TextSlot → Prop
  | parameter position => position ≤ maxPosition
  | _ => True

end TextSlot

namespace TextPlace

/-- The steps to the operation. -/
def operation (place : TextPlace) : List Step :=
  [.key "paths", .key place.path, .key place.method.name]

/-- The steps to the object that holds the text. -/
def owner (place : TextPlace) : List Step :=
  .key "paths" :: .key place.path :: .key place.method.name :: place.slot.owner

/-- The steps to the text. -/
def steps (place : TextPlace) : List Step := place.owner ++ [.key place.slot.key]

/-- The target of an action that sets the text. -/
def target (place : TextPlace) : String :=
  "$.paths[" ++ Overlay.quotedKey place.path ++ "]." ++ place.method.name ++ place.slot.suffix

/-- The action that sets the text at the place. -/
def action (place : TextPlace) (text : String) : OverlayAction :=
  ⟨place.target, some (.text text), none⟩

theorem owner_eq (place : TextPlace) : place.owner = place.operation ++ place.slot.owner := rfl

/-! ### Places beside each other -/

/-- No place lies on the way to another. -/
theorem eq_of_steps_prefix_steps {p q : TextPlace} (h : p.steps <+: q.steps) : p = q := by
  obtain ⟨path, method, slot⟩ := p
  obtain ⟨path', method', slot'⟩ := q
  simp only [steps, owner, List.cons_append, List.cons_prefix_cons, Step.key.injEq, true_and] at h
  obtain ⟨rfl, hname, hslot⟩ := h
  have hmethod : method = method' := Method.name_injective hname
  have hslot : slot = slot' := by
    cases slot <;> cases slot' <;>
      simp_all [TextSlot.owner, TextSlot.key, List.cons_prefix_cons]
  rw [hmethod, hslot]

theorem apart_of_ne {p q : TextPlace} (h : p ≠ q) : Document.Apart p.steps q.steps :=
  ⟨fun hpre => h (eq_of_steps_prefix_steps hpre),
    fun hpre => h (eq_of_steps_prefix_steps hpre).symm⟩

/-- No place lies on the way to the object that holds the text of another. -/
theorem not_prefix_owner (p q : TextPlace) : ¬ p.steps <+: q.owner := by
  intro h
  have heq : p = q := eq_of_steps_prefix_steps (h.trans (List.prefix_append _ _))
  subst heq
  have hlength := h.length_le
  rw [steps, List.length_append, List.length_singleton] at hlength
  omega

end TextPlace

namespace Overlay

/-! ### The places of an overlay -/

/-- The places of the parameters of an operation that are written out. -/
def parameterPlaces (op : Operation) : List TextPlace :=
  (op.parameters.zipIdx.filter fun entry => !entry.1.has "$ref").map fun entry =>
    ⟨op.path, op.method, .parameter entry.2⟩

/-- The places of an operation whose texts are set. -/
def operationPlaces (settings : OverlaySettings) (op : Operation) : List TextPlace :=
  (if settings.describeOperations then [⟨op.path, op.method, .description⟩] else [])
    ++ (if settings.summarize && (op.summary?.getD "").toList.length < shortSummary then
          [⟨op.path, op.method, .summary⟩]
        else [])
    ++ (if settings.describeParameters then parameterPlaces op else [])

/-- The places whose texts are set, in order. -/
def places (settings : OverlaySettings) (spec : Spec) : List TextPlace :=
  if settings.enabled then spec.operations.flatMap (operationPlaces settings) else []

theorem map_target_parameterTasks (settings : OverlaySettings) (prompts? : Option Prompts)
    (op : Operation) (position : Nat) (parameters : List Document) :
    (parameterTasks settings prompts? op position parameters).map OverlayTask.target
      = ((parameters.zipIdx position).filter fun entry => !entry.1.has "$ref").map fun entry =>
          TextPlace.target ⟨op.path, op.method, .parameter entry.2⟩ := by
  induction parameters generalizing position with
  | nil => rfl
  | cons parameter rest ih =>
    rw [parameterTasks, List.zipIdx_cons]
    by_cases hreference : parameter.has "$ref"
    · simp [hreference, ih]
    · simp [hreference, ih, parameterTask, operationTarget, TextPlace.target, TextSlot.suffix,
        String.append_assoc]

theorem map_target_operationTasks (settings : OverlaySettings) (prompts? : Option Prompts)
    (spec : Spec) (op : Operation) :
    (operationTasks settings prompts? spec op).map OverlayTask.target
      = (operationPlaces settings op).map TextPlace.target := by
  unfold operationTasks operationPlaces parameterPlaces
  rw [List.map_append, List.map_append, List.map_append, List.map_append]
  congr 1
  · congr 1
    · split <;> rfl
    · split <;> rfl
  · split
    · rw [map_target_parameterTasks, List.map_map]
      rfl
    · rfl

/-- The tasks are those of the places, in their order. -/
theorem map_target_tasks (settings : OverlaySettings) (prompts? : Option Prompts) (spec : Spec) :
    (tasks settings prompts? spec).map OverlayTask.target
      = (spec.operations.flatMap (operationPlaces settings)).map TextPlace.target := by
  unfold tasks
  rw [List.map_flatMap, List.map_flatMap]
  simp only [map_target_operationTasks]

theorem length_outcomes (model : LanguageModel) (asked : Nat) (tasks : List OverlayTask) :
    (OverlayTask.outcomes model asked tasks).length = tasks.length := by
  induction tasks generalizing asked with
  | nil => rfl
  | cons task rest ih =>
    rw [OverlayTask.outcomes]
    split
    · rw [List.length_cons, List.length_cons, ih]
    · rw [List.length_cons, List.length_cons, ih]

/-- The actions of a generated overlay set a text at each of the places, in their order. -/
theorem actions_generate (settings : OverlaySettings) (assistant? : Option Assistant)
    (spec : Spec) :
    ∃ edits : List (TextPlace × String), edits.map Prod.fst = places settings spec ∧
      (generate settings assistant? spec).overlay.actions
        = edits.map fun edit => edit.1.action edit.2 := by
  unfold generate places
  cases settings.enabled with
  | false => exact ⟨[], rfl, rfl⟩
  | true =>
    let prompts? := activePrompts? settings assistant?
    let outcomes := OverlayTask.outcomes ((assistant?.map Assistant.model).getD .silent) 0
      (tasks settings prompts? spec)
    have htargets := map_target_tasks settings prompts? spec
    have hlength := congrArg List.length htargets
    rw [List.length_map, List.length_map] at hlength
    refine ⟨(spec.operations.flatMap (operationPlaces settings)).zip
      (outcomes.map TaskOutcome.text), ?_, ?_⟩
    · rw [if_pos rfl, List.map_fst_zip]
      rw [List.length_map, length_outcomes, hlength]
    · show ((((tasks settings prompts? spec).map OverlayTask.target).zip _).map _) = _
      rw [htargets, List.zip_map_left, List.map_map]
      rfl

/-! ### Membership -/

variable {settings : OverlaySettings} {spec : Spec} {op : Operation} {place : TextPlace}

theorem mem_parameterPlaces : place ∈ parameterPlaces op ↔
    ∃ position parameter, op.parameters[position]? = some parameter ∧
      parameter.has "$ref" = false ∧ place = ⟨op.path, op.method, .parameter position⟩ := by
  unfold parameterPlaces
  simp only [List.mem_map, List.mem_filter, Prod.exists, List.mem_zipIdx_iff_getElem?]
  constructor
  · rintro ⟨parameter, position, ⟨hparameter, hreference⟩, rfl⟩
    exact ⟨position, parameter, hparameter, by simpa using hreference, rfl⟩
  · rintro ⟨position, parameter, hparameter, hreference, rfl⟩
    exact ⟨parameter, position, ⟨hparameter, by simpa using hreference⟩, rfl⟩

/-- A place of an operation is of its path and method, and a parameter whose description it is is
one of the operation's and no reference. -/
theorem of_mem_operationPlaces (h : place ∈ operationPlaces settings op) :
    place.path = op.path ∧ place.method = op.method ∧
      ∀ position, place.slot = .parameter position →
        ∃ parameter, op.parameters[position]? = some parameter ∧
          parameter.has "$ref" = false := by
  unfold operationPlaces at h
  rw [List.mem_append, List.mem_append] at h
  rcases h with (h | h) | h
  · obtain ⟨-, rfl⟩ : settings.describeOperations = true ∧
        place = ⟨op.path, op.method, .description⟩ := by simpa using h
    exact ⟨rfl, rfl, by simp⟩
  · split_ifs at h
    · rw [List.mem_singleton] at h
      subst h
      exact ⟨rfl, rfl, by simp⟩
    · cases h
  · split_ifs at h
    · obtain ⟨position, parameter, hparameter, hreference, rfl⟩ := mem_parameterPlaces.mp h
      refine ⟨rfl, rfl, ?_⟩
      rintro _ ⟨⟩
      exact ⟨parameter, hparameter, hreference⟩
    · cases h

/-- The positions in a list that fits into memory can be written. -/
theorem fits_of_mem_operationPlaces (hlength : op.parameters.length ≤ maxPosition)
    (h : place ∈ operationPlaces settings op) : place.slot.Fits := by
  cases hslot : place.slot with
  | description => exact trivial
  | summary => exact trivial
  | parameter position =>
    obtain ⟨parameter, hparameter, -⟩ := (of_mem_operationPlaces h).2.2 position hslot
    have hposition := (List.getElem?_eq_some_iff.mp hparameter).1
    show position ≤ maxPosition
    omega

theorem nodup_parameterPlaces (op : Operation) : (parameterPlaces op).Nodup := by
  unfold parameterPlaces
  have hpositions : (op.parameters.zipIdx.map Prod.snd).Nodup := by
    rw [List.zipIdx_map_snd]
    exact List.nodup_range'
  -- The positions are different, and filtering keeps them so.
  have hkept := (List.filter_sublist (p := fun entry => !entry.1.has "$ref")
    (l := op.parameters.zipIdx)).map Prod.snd
  have hslots := (hpositions.sublist hkept).map (f := fun position =>
    (⟨op.path, op.method, .parameter position⟩ : TextPlace)) (by
      intro i j heq
      simpa using heq)
  rwa [List.map_map] at hslots

theorem nodup_operationPlaces (settings : OverlaySettings) (op : Operation) :
    (operationPlaces settings op).Nodup := by
  have hparameters : ∀ place ∈ (if settings.describeParameters then parameterPlaces op else []),
      ∃ position, place.slot = .parameter position := by
    intro place hplace
    split_ifs at hplace
    · obtain ⟨position, -, -, -, rfl⟩ := mem_parameterPlaces.mp hplace
      exact ⟨position, rfl⟩
    · cases hplace
  unfold operationPlaces
  refine List.nodup_append.mpr ⟨?_, ?_, ?_⟩
  · split_ifs <;> simp
  · split_ifs
    · exact nodup_parameterPlaces op
    · exact List.nodup_nil
  · rintro place hplace other hother rfl
    obtain ⟨position, hslot⟩ := hparameters place hother
    rcases List.mem_append.mp hplace with hplace | hplace <;> split_ifs at hplace <;>
      simp_all

theorem mem_places (h : place ∈ places settings spec) :
    ∃ op ∈ spec.operations, place ∈ operationPlaces settings op := by
  unfold places at h
  split_ifs at h
  · exact List.mem_flatMap.mp h
  · cases h

/-- No place is set twice where every path is written once. -/
theorem nodup_places (settings : OverlaySettings) (distinct : spec.HasDistinctPaths) :
    (places settings spec).Nodup := by
  unfold places
  split_ifs
  · rw [List.nodup_flatMap]
    refine ⟨fun op _ => nodup_operationPlaces settings op, ?_⟩
    refine List.Pairwise.imp ?_ (List.pairwise_map.mp (Spec.nodup_operations distinct))
    intro op op' hne place hplace hplace'
    obtain ⟨hpath, hmethod, -⟩ := of_mem_operationPlaces hplace
    obtain ⟨hpath', hmethod', -⟩ := of_mem_operationPlaces hplace'
    exact hne (Prod.ext (hpath.symm.trans hpath') (hmethod.symm.trans hmethod'))
  · exact List.nodup_nil

/-! ### Reading a target -/

/-- A key without a backslash is written with its quotes escaped. -/
theorem quoted_replaceFrom {key : List Char} (h : '\\' ∉ key) :
    JsonPath.Quoted '\'' (Text.replaceFrom ['\''] ['\\', '\''] 0 key) key := by
  induction key with
  | nil => exact .nil
  | cons c rest ih =>
    rw [List.mem_cons, not_or] at h
    rw [Text.replaceFrom]
    by_cases hc : c = '\''
    · subst hc
      rw [if_pos (by simp)]
      exact .escaped (ih h.2)
    · rw [if_neg (by simpa using Ne.symm hc)]
      exact .plain (Ne.symm h.1) hc (ih h.2)

theorem toList_quotedKey (key : String) :
    (quotedKey key).toList
      = '\'' :: (Text.replaceFrom ['\''] ['\\', '\''] 0 key.toList ++ ['\'']) := by
  unfold quotedKey Text.replace
  simp only [String.toList_append, String.toList_ofList]
  rfl

theorem item_quotedKey {key : String} (h : '\\' ∉ key.toList) :
    JsonPath.Item ('[' :: ((quotedKey key).toList ++ [']'])) (.key key) := by
  have hlist := JsonPath.KeyList.last (.inl rfl) (quoted_replaceFrom h) 0
  have hitem := JsonPath.Item.keys hlist
  rw [toList_quotedKey]
  simpa [JsonPath.keysSegment] using hitem

end Overlay

namespace TextSlot

theorem items_suffix {slot : TextSlot} (h : slot.Fits) :
    JsonPath.Items slot.suffix.toList ((slot.owner ++ [Step.key slot.key]).map Step.segment) := by
  have hdescription : JsonPath.Items ".description".toList [Segment.key "description"] :=
    .cons (JsonPath.item_name (by decide : JsonPath.IsName "description")) .nil
  cases slot with
  | description => exact hdescription
  | summary => exact .cons (JsonPath.item_name (by decide : JsonPath.IsName "summary")) .nil
  | parameter position =>
    have hindex := JsonPath.Items.cons (JsonPath.item_index h) hdescription
    have hitems := JsonPath.Items.cons
      (JsonPath.item_name (by decide : JsonPath.IsName "parameters")) hindex
    have htext : (parameter position).suffix.toList
        = '.' :: "parameters".toList
          ++ ('[' :: ((natText position).toList ++ [']']) ++ ".description".toList) := by
      simp [suffix, String.toList_append]
    rw [htext]
    exact hitems

/-- What a target says after the operation ends in a letter. -/
theorem getLast?_suffix (slot : TextSlot) :
    ∃ c, slot.suffix.toList.getLast? = some c ∧ Text.isBlank c = false := by
  cases slot with
  | description => exact ⟨'n', by decide, by decide⟩
  | summary => exact ⟨'y', by decide, by decide⟩
  | parameter position =>
    refine ⟨'n', ?_, by decide⟩
    rw [TextSlot.suffix, String.toList_append, List.getLast?_append]
    rfl

end TextSlot

namespace TextPlace

theorem isName_method (method : Method) : JsonPath.IsName method.name := by
  cases method <;> decide

/-- The characters of a target after its first one are the segments of the steps. -/
theorem items_target {place : TextPlace} (hpath : '\\' ∉ place.path.toList)
    (hfits : place.slot.Fits) :
    ∃ written, place.target.toList = '$' :: written ∧
      JsonPath.Items written (place.steps.map Step.segment) := by
  have hmethod := JsonPath.Items.cons (JsonPath.item_name (isName_method place.method))
    (TextSlot.items_suffix hfits)
  have hkey := JsonPath.Items.cons (Overlay.item_quotedKey hpath) hmethod
  have hitems := JsonPath.Items.cons
    (JsonPath.item_name (by decide : JsonPath.IsName "paths")) hkey
  refine ⟨_, ?_, hitems⟩
  simp [target, String.toList_append]

/-- A target begins and ends with characters that are not blank. -/
theorem trimChars_target (place : TextPlace) :
    Text.trimChars place.target.toList = place.target.toList := by
  apply JsonPath.trimChars_eq_self
  · simp [target, String.toList_append, Text.isBlank]
  · obtain ⟨c, hc, hblank⟩ := place.slot.getLast?_suffix
    intro d hd
    rw [target, String.toList_append, List.getLast?_append, hc] at hd
    cases hd
    exact hblank

theorem read_target {place : TextPlace} (hpath : '\\' ∉ place.path.toList)
    (hfits : place.slot.Fits) :
    JsonPath.read place.target = .ok (JsonPath.ofSteps place.steps) := by
  obtain ⟨written, htext, hitems⟩ := items_target hpath hfits
  exact JsonPath.read_of_items (by rw [trimChars_target, htext]) hitems

theorem readTarget_target {place : TextPlace} (hpath : '\\' ∉ place.path.toList)
    (hfits : place.slot.Fits) :
    JsonPath.readTarget place.target = .ok (JsonPath.ofSteps place.steps) := by
  unfold JsonPath.readTarget
  rw [read_target hpath hfits]
  rfl

end TextPlace

end ApiTools
