import ApiTools.Overlay.Text
import ApiTools.Proofs.Document.Json
import ApiTools.Proofs.Document.Keys

/-!
# Overlays are read back from JSON

An overlay that is written as JSON is read back as it was (`Overlay.read?_textIn_json`): the text is
read as the document that was written, and each of its records has a field for what is there and
none for what is not.
-/

namespace ApiTools

/-! ### Fields of records -/

namespace Record

variable {α β : Type} {fields : List (String × α)} {name : String} {value : α} {result : β}
  {read : α → Option β}

theorem required_of_field (h : field? fields name = some (some value))
    (hread : read value = some result) : required fields name read = some result := by
  rw [required, h, Option.bind_some, Option.bind_some, hread]

theorem withDefault_of_field (default : β) (h : field? fields name = some (some value))
    (hread : read value = some result) : withDefault fields name default read = some result := by
  rw [withDefault, h]
  exact hread

variable [Source α]

theorem optional_of_field (h : field? fields name = some (some value))
    (hgiven : Source.given? value = some true) (hread : read value = some result) :
    optional fields name read = some (some result) := by
  rw [optional, h, Option.bind_some]
  dsimp only
  rw [hgiven, Option.bind_some, if_pos rfl, hread, Option.map_some]

theorem optional_of_missing (h : field? fields name = some none) :
    optional fields name read = some none := by
  rw [optional, h, Option.bind_some]

end Record

/-- A value that JSON carries as an update.  Null would mean that there is none, and a text that is
nested too deep is not read. -/
structure Document.IsUpdate (value : Document) : Prop where
  given : value.isNull = false
  integers : value.HasIntegersOnly
  distinct : value.HasDistinctKeys
  nesting : value.nesting ≤ 100

instance (value : Document) : Decidable value.IsUpdate :=
  decidable_of_iff (value.isNull = false ∧ value.HasIntegersOnly ∧ value.HasDistinctKeys ∧
      value.nesting ≤ 100)
    ⟨fun ⟨given, integers, distinct, nesting⟩ => ⟨given, integers, distinct, nesting⟩,
      fun h => ⟨h.given, h.integers, h.distinct, h.nesting⟩⟩

namespace Overlay

open Document Record

variable {overlay : Overlay} {action : OverlayAction}

/-! ### Records are read back -/

theorem infoOfRecord?_infoDocument (info : OverlayInfo) :
    infoOfRecord? (infoDocument info) = some info := by
  obtain ⟨title, version, description?⟩ := info
  cases description? <;> rfl

theorem actionOfRecord?_actionDocument (h : ∀ value ∈ action.update?, value.IsUpdate) :
    actionOfRecord? (actionDocument action) = some action := by
  obtain ⟨target, update?, remove?⟩ := action
  let fields : Members := [("target", .text target)] ++ (update?.map ("update", ·)).toList
    ++ (remove?.map fun b => ("remove", Document.bool b)).toList
  -- The other fields, given or not, do not change what is found under a key.
  have htarget : withDefault fields "target" "" Source.text? = some target := by
    have hfield : field? fields "target" = some (some (.text target)) := by
      cases update? <;> cases remove? <;> rfl
    exact withDefault_of_field "" hfield rfl
  have hupdate : optional fields "update" Source.document? = some update? := by
    cases update? with
    | none =>
      refine optional_of_missing ?_
      cases remove? <;> rfl
    | some value =>
      have hvalue := h value rfl
      have hfield : field? fields "update" = some (some value) := by cases remove? <;> rfl
      refine optional_of_field hfield ?_ ?_
      · show some (!value.isNull) = some true
        rw [hvalue.given]
        rfl
      · exact congrArg some (merged_of_hasDistinctKeys value hvalue.distinct)
  have hremove : optional fields "remove" Source.flag? = some remove? := by
    cases remove? with
    | none =>
      refine optional_of_missing ?_
      cases update? <;> rfl
    | some flag =>
      have hfield : field? fields "remove" = some (some (.bool flag)) := by cases update? <;> rfl
      exact optional_of_field hfield rfl rfl
  show (do
    return { target := ← withDefault fields "target" "" Source.text?
             update? := ← optional fields "update" Source.document?
             remove? := ← optional fields "remove" Source.flag? : OverlayAction }) = _
  rw [htarget, hupdate, hremove]
  rfl

theorem mapM_actionOfRecord? {actions : List OverlayAction}
    (h : ∀ action ∈ actions, ∀ value ∈ action.update?, value.IsUpdate) :
    (actions.map actionDocument).mapM actionOfRecord? = some actions := by
  induction actions with
  | nil => rfl
  | cons action rest ih =>
    obtain ⟨hfirst, hrest⟩ := List.forall_mem_cons.mp h
    rw [List.map_cons, List.mapM_cons, actionOfRecord?_actionDocument hfirst, ih hrest]
    rfl

theorem ofRecord?_toDocument
    (h : ∀ action ∈ overlay.actions, ∀ value ∈ action.update?, value.IsUpdate) :
    ofRecord? overlay.toDocument = some overlay := by
  obtain ⟨version, info, actions⟩ := overlay
  let fields : Members := [("overlay", .text version), ("info", infoDocument info),
    ("actions", .list (actions.map actionDocument))]
  have hgiven : field? fields "overlay" = some (some (.text version)) := rfl
  have hversion : required fields "overlay" Source.text? = some version :=
    required_of_field hgiven rfl
  have hinfo : required fields "info" infoOfRecord? = some info :=
    required_of_field rfl (infoOfRecord?_infoDocument info)
  have hfield : field? fields "actions" = some (some (.list (actions.map actionDocument))) := rfl
  have hactions : withDefault fields "actions" [] (fun actions =>
      (Source.items? actions).bind (·.mapM actionOfRecord?)) = some actions :=
    withDefault_of_field [] hfield (mapM_actionOfRecord? h)
  show (do
    return { version := ← required fields "overlay" Source.text?
             info := ← required fields "info" infoOfRecord?
             actions := ← withDefault fields "actions" [] fun actions =>
               (Source.items? actions).bind (·.mapM actionOfRecord?) : Overlay }) = _
  rw [hversion, hinfo, hactions]
  rfl

/-! ### The document that is written -/

theorem hasIntegersOnly_infoDocument (info : OverlayInfo) :
    (infoDocument info).HasIntegersOnly := by
  have htext (s : String) : (Document.text s).HasIntegersOnly := hasIntegersOnly_of_scalar rfl rfl
  obtain ⟨title, version, description?⟩ := info
  rw [infoDocument, hasIntegersOnly_object]
  cases description? <;> simp [htext]

theorem hasIntegersOnly_actionDocument (h : ∀ value ∈ action.update?, value.IsUpdate) :
    (actionDocument action).HasIntegersOnly := by
  have htext (s : String) : (Document.text s).HasIntegersOnly := hasIntegersOnly_of_scalar rfl rfl
  have hflag (b : Bool) : (Document.bool b).HasIntegersOnly := hasIntegersOnly_of_scalar rfl rfl
  obtain ⟨target, update?, remove?⟩ := action
  rw [actionDocument, hasIntegersOnly_object]
  cases update? with
  | none => cases remove? <;> simp [htext, hflag]
  | some value =>
    have hvalue := (h value rfl).integers
    cases remove? <;> simp [htext, hflag, hvalue]

theorem hasIntegersOnly_toDocument
    (h : ∀ action ∈ overlay.actions, ∀ value ∈ action.update?, value.IsUpdate) :
    overlay.toDocument.HasIntegersOnly := by
  have htext : (Document.text overlay.version).HasIntegersOnly := hasIntegersOnly_of_scalar rfl rfl
  have hactions : (Document.list (overlay.actions.map actionDocument)).HasIntegersOnly := by
    rw [hasIntegersOnly_list, List.forall_mem_map]
    exact fun action haction => hasIntegersOnly_actionDocument (h action haction)
  rw [toDocument, hasIntegersOnly_object]
  simp only [List.forall_mem_cons]
  exact ⟨htext, hasIntegersOnly_infoDocument _, hactions, List.forall_mem_nil _⟩

theorem nesting_infoDocument_le (info : OverlayInfo) : (infoDocument info).nesting ≤ 1 := by
  obtain ⟨title, version, description?⟩ := info
  cases description? <;> exact Nat.le_refl _

theorem nesting_actionDocument_le (h : ∀ value ∈ action.update?, value.IsUpdate) :
    (actionDocument action).nesting ≤ 101 := by
  obtain ⟨target, update?, remove?⟩ := action
  rw [actionDocument, nesting]
  refine Nat.succ_le_succ (nestingOfMembers_le_iff.mpr ?_)
  cases update? with
  | none => cases remove? <;> simp [nesting]
  | some value =>
    have hvalue := (h value rfl).nesting
    cases remove? <;> simp [nesting, hvalue]

/-- The document is nested three levels deeper than the updates. -/
theorem nesting_toDocument_le
    (h : ∀ action ∈ overlay.actions, ∀ value ∈ action.update?, value.IsUpdate) :
    overlay.toDocument.nesting ≤ 103 := by
  have hactions : nestingOfItems (overlay.actions.map actionDocument) ≤ 101 := by
    rw [nestingOfItems_le_iff, List.forall_mem_map]
    exact fun action haction => nesting_actionDocument_le (h action haction)
  have hinfo := nesting_infoDocument_le overlay.info
  simp only [toDocument, nesting, nestingOfMembers]
  omega

/-- An overlay is read back from its JSON text. -/
theorem read?_textIn_json
    (h : ∀ action ∈ overlay.actions, ∀ value ∈ action.update?, value.IsUpdate) :
    read? (overlay.textIn .json) = some overlay := by
  have htext : entriesOfJson? maxDepth (overlay.textIn .json) = some overlay.toDocument :=
    entriesOfJson?_pretty (hasIntegersOnly_toDocument h)
      (Nat.le_trans (nesting_toDocument_le h) (by decide))
  rw [read?, htext, Option.bind_some, ofRecord?_toDocument h]

/-- An overlay with texts to be escaped, with the least and the greatest integer, and with an action
for each choice of fields. -/
def mixedOverlay : Overlay where
  version := currentVersion
  info := ⟨"Notes \"and\" more", "1", some "line one\nline two\x01"⟩
  actions :=
    [⟨"$.info", some (.object [("title", .text "Übersicht \\ 漢字"),
        ("limits", .list [.ofInt (-9223372036854775808), .ofInt 18446744073709551615, .null]),
        ("about", .object [])]), none⟩,
      ⟨"$.paths['/notes']", none, some true⟩,
      ⟨"", some (.bool false), some false⟩,
      ⟨"$", none, none⟩]

theorem read?_textIn_json_mixed :
    (∀ action ∈ mixedOverlay.actions, ∀ value ∈ action.update?, value.IsUpdate) ∧
      read? (mixedOverlay.textIn .json) = some mixedOverlay := by
  have h : ∀ action ∈ mixedOverlay.actions, ∀ value ∈ action.update?, value.IsUpdate := by decide
  exact ⟨h, read?_textIn_json h⟩

end Overlay

end ApiTools
