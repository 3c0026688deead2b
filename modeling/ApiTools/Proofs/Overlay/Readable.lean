import ApiTools.Proofs.JsonPath.Display
import ApiTools.Proofs.Overlay.Targets

/-!
# Which targets can be read back

A target quotes the path of its operation with a backslash before each quote and before nothing
else, while the reader takes every backslash away.  So the target of a path without backslashes is
read as the steps to its place.  With a backslash in the path it is not: whatever the reader takes
for the path has a backslash before each quote and before each backslash (`Quoted.length_le`), and
it cannot reach beyond the last quote of the target, where only the quotes have one
(`length_escaped`).  `readable_targets` says this of all the tasks of an operation.
-/

namespace ApiTools

/-! ### Lengths -/

/-- Each quote and each backslash of a key is written with a backslash before it. -/
theorem JsonPath.Quoted.length_le {quote : Char} (hquote : quote ≠ '\\') {written key : List Char}
    (h : Quoted quote written key) :
    key.length + key.count quote + key.count '\\' ≤ written.length := by
  induction h with
  | nil => simp
  | @plain c written key hbackslash hne _ ih =>
    rw [List.count_cons_of_ne hne, List.count_cons_of_ne hbackslash]
    simp only [List.length_cons]
    omega
  | @escaped c written key _ ih =>
    -- The character is not both, so one backslash is enough.
    have hone : (c :: key).count quote + (c :: key).count '\\'
        ≤ key.count quote + key.count '\\' + 1 := by
      by_cases hc : c = quote
      · subst hc
        rw [List.count_cons_self, List.count_cons_of_ne hquote]
        omega
      · rw [List.count_cons_of_ne hc, List.count_cons]
        split <;> omega
    simp only [List.length_cons]
    omega

theorem length_escaped (cs : List Char) : (escaped cs).length = cs.length + cs.count '\'' := by
  induction cs with
  | nil => rfl
  | cons c rest ih =>
    by_cases hc : c = '\''
    · subst hc
      rw [escaped_quote, List.count_cons_self]
      simp only [List.length_cons]
      omega
    · rw [escaped_cons hc, List.count_cons_of_ne hc]
      simp only [List.length_cons]
      omega

/-- Up to a character that does not come again there is no more than up to any other of its kind. -/
theorem length_le_of_not_mem {α : Type} {a : α} {xs ys xs' ys' : List α} (hys : a ∉ ys)
    (h : xs' ++ a :: ys' = xs ++ a :: ys) : xs'.length ≤ xs.length := by
  -- One of the two beginnings goes on where the other ends; if it is the first one, it passes the
  -- character on the right.
  rcases List.append_eq_append_iff.mp h with ⟨cut, rfl, -⟩ | ⟨cut, rfl, hcut⟩
  · simp
  · cases cut with
    | nil => simp
    | cons b cut =>
      obtain ⟨rfl, rfl⟩ := List.cons.inj hcut
      exact absurd (by simp) hys

/-- What is escaped for a target and read back as itself has no backslash. -/
theorem backslash_not_mem_of_escaped {written key tail rest : List Char}
    (h : JsonPath.Quoted '\'' written key) (hrest : '\'' ∉ rest)
    (htext : written ++ '\'' :: tail = escaped key ++ '\'' :: rest) : '\\' ∉ key := by
  have hwritten := h.length_le (by decide)
  have hescaped := length_le_of_not_mem hrest htext
  rw [length_escaped] at hescaped
  rw [← List.count_eq_zero]
  omega

/-! ### One target -/

namespace JsonPath

theorem namedSegment_eq_key {cs : List Char} {name : String} (h : namedSegment cs = .key name) :
    cs = name.toList := by
  unfold namedSegment at h
  split_ifs at h
  rw [← Segment.key.inj h, String.toList_ofList]

/-- A list of one key is the key in quotes. -/
theorem KeyList.quoted_of_singleton {written : List Char} {name : String}
    (h : KeyList written [name]) :
    ∃ quote inner tail, Quoted quote inner name.toList ∧
      written = quote :: (inner ++ quote :: tail) := by
  generalize hnames : [name] = names at h
  cases h with
  | @last _ _ key _ hinner =>
    rw [List.cons.injEq] at hnames
    refine ⟨_, _, _, ?_, rfl⟩
    rwa [hnames.1, String.toList_ofList]
  | more _ _ _ _ hothers => exact absurd (List.cons.inj hnames).2.symm hothers.ne_nil

end JsonPath

namespace TextPlace

open JsonPath

variable {place : TextPlace}

/-- The target begins with the key of the paths, and the path comes after it in brackets. -/
theorem toList_target_bracket (place : TextPlace) :
    place.target.toList = '$' :: '.' :: ("paths".toList ++ '[' :: ('\'' ::
      (escaped place.path.toList ++ '\'' ::
        ']' :: '.' :: (place.method.name.toList ++ place.slot.suffix.toList)))) := by
  rw [toList_target]
  simp

/-- Where the target is read as the steps to its place, the path has no backslash. -/
theorem backslash_not_mem_path (h : JsonPath.read place.target = .ok (ofSteps place.steps)) :
    '\\' ∉ place.path.toList := by
  obtain ⟨written, htext, hitems⟩ := read_eq_ok_iff.mp h
  rw [trimChars_target, toList_target_bracket] at htext
  rw [← (List.cons.inj htext).2] at hitems
  -- The segments are taken off the front: the key of the paths, then what stands in brackets.
  obtain ⟨name, afterName, hname, hpaths, hbracket⟩ := Items.of_point hitems
  rw [namedSegment_eq_key hpaths.symm] at hname
  rw [← List.append_cancel_left hname] at hbracket
  obtain ⟨inside, afterKey, hinside, hitem, -⟩ := Items.of_bracket hbracket
  have hkeys : KeyList inside [place.path] :=
    hitem.keyList (by simp [Step.segment]) (by simp [Step.segment])
  obtain ⟨quote, inner, tail, hquoted, rfl⟩ := hkeys.quoted_of_singleton
  rw [List.cons_append, List.append_assoc, List.cons_append] at hinside
  obtain ⟨rfl, hkey⟩ := List.cons.inj hinside
  exact backslash_not_mem_of_escaped hquoted (quote_not_mem_method_suffix _ _) hkey.symm

/-- A target is read as the steps to its place where the path has no backslash, and only there. -/
theorem read_target_iff (hfits : place.slot.Fits) :
    JsonPath.read place.target = .ok (ofSteps place.steps) ↔ '\\' ∉ place.path.toList := by
  constructor
  · exact backslash_not_mem_path
  · intro hpath
    exact read_target hpath hfits

end TextPlace

/-! ### The targets of an operation -/

/-- What the target says after the operation is read as the segments of its steps. -/
theorem TextSlot.read_suffix {slot : TextSlot} (h : slot.Fits) :
    JsonPath.read ("$" ++ slot.suffix)
      = .ok ⟨(slot.owner ++ [Step.key slot.key]).map Step.segment⟩ := by
  have htext : ("$" ++ slot.suffix).toList = '$' :: slot.suffix.toList := by
    simp [String.toList_append]
  apply JsonPath.read_of_items _ (items_suffix h)
  rw [htext]
  apply JsonPath.trimChars_eq_self
  · simp [Text.isBlank]
  · obtain ⟨c, hc, hblank⟩ := slot.getLast?_suffix
    simpa [List.getLast?_cons, hc] using hblank

namespace Overlay

/-- Each task of an operation has the target of the operation with a suffix, and this target is read
as the steps to the operation and then the segments of the suffix where the path of the operation
has no backslash, and only there. -/
theorem readable_targets (settings : OverlaySettings) (prompts? : Option Prompts) (spec : Spec)
    (op : Operation) (hlength : op.parameters.length ≤ maxPosition) :
    ∀ task ∈ operationTasks settings prompts? spec op, ∃ slot : TextSlot, ∃ own,
      task.target = operationTarget op ++ slot.suffix ∧
      JsonPath.read ("$" ++ slot.suffix) = .ok ⟨own⟩ ∧
      (JsonPath.read task.target
          = .ok ⟨.key "paths" :: .key op.path :: .key op.method.name :: own⟩ ↔
        '\\' ∉ op.path.toList) := by
  intro task htask
  have htarget : task.target ∈ (operationPlaces settings op).map TextPlace.target := by
    rw [← map_target_operationTasks settings prompts? spec op]
    exact List.mem_map_of_mem htask
  obtain ⟨place, hplace, heq⟩ := List.mem_map.mp htarget
  have hfits := fits_of_mem_operationPlaces hlength hplace
  obtain ⟨hpath, hmethod, -⟩ := of_mem_operationPlaces hplace
  refine ⟨place.slot, _, ?_, TextSlot.read_suffix hfits, ?_⟩
  · rw [← heq, TextPlace.target, operationTarget, hpath, hmethod]
  · rw [← heq, ← hpath, ← hmethod]
    exact TextPlace.read_target_iff hfits

/-- An operation with one parameter and nothing else. -/
def listOperation (path : String) : Operation :=
  ⟨path, .get, .object [("parameters", .list [.object [("name", .text "page")]])], .object []⟩

/-- The quote in the path does no harm to its targets, and the backslash before it does. -/
theorem readable_targets_listOperation :
    (listOperation "/it's").parameters.length ≤ maxPosition ∧
      (listOperation "/it\\'s").parameters.length ≤ maxPosition ∧
      (∀ task ∈ operationTasks {} none ⟨.null⟩ (listOperation "/it's"), ∃ own,
        JsonPath.read task.target = .ok ⟨.key "paths" :: .key "/it's" :: .key "get" :: own⟩) ∧
      ∀ task ∈ operationTasks {} none ⟨.null⟩ (listOperation "/it\\'s"), ∃ slot : TextSlot, ∃ own,
        JsonPath.read ("$" ++ slot.suffix) = .ok ⟨own⟩ ∧
        JsonPath.read task.target ≠ .ok ⟨.key "paths" :: .key "/it\\'s" :: .key "get" :: own⟩ := by
  have hplain : (listOperation "/it's").parameters.length ≤ maxPosition := by decide
  have hbackslash : (listOperation "/it\\'s").parameters.length ≤ maxPosition := by decide
  refine ⟨hplain, hbackslash, ?_, ?_⟩
  · intro task htask
    obtain ⟨slot, own, -, -, hread⟩ := readable_targets {} none ⟨.null⟩ _ hplain task htask
    exact ⟨own, hread.mpr (by decide)⟩
  · intro task htask
    obtain ⟨slot, own, -, hown, hread⟩ :=
      readable_targets {} none ⟨.null⟩ _ hbackslash task htask
    refine ⟨slot, own, hown, ?_⟩
    intro hback
    exact absurd (hread.mp hback) (by decide)

end Overlay

end ApiTools
