import ApiTools.Proofs.JsonPath.Matches

/-!
# Searching depth first

`JsonPath.find` takes all places found so far one level down before it goes on to the next segment.
`JsonPath.visit` is the search that a reader of a path has in mind: from each child that the first
segment selects it goes all the way down, and then it turns to the next child.  Which children a
segment selects is said by `Segment.chosen` in terms of the list of all children in document order,
and `select_eq_chosen` is the one place where this is compared with the search's own case split.

Both searches give the same places in the same order (`find_eq_map_visit`), by induction on the
segments with the steps to each place found so far in front (`foldl_expand_eq_flatMap_visit`).
-/

namespace ApiTools

variable {doc node child : Document} {segment : Segment} {step : Step} {steps : List Step}

/-! ### Children in document order -/

/-- The children of a node in document order, each with the step to it. -/
def Document.children : Document → List (Step × Document)
  | object members => members.map fun entry => (.key entry.1, entry.2)
  | list items => items.zipIdx.map fun entry => (.index entry.2, entry.1)
  | _ => []

namespace Segment

theorem itemsFrom_eq (position : Nat) (items : List Document) :
    itemsFrom position items
      = (items.zipIdx position).map fun entry => (.index entry.2, entry.1) := by
  induction items generalizing position with
  | nil => rfl
  | cons item rest ih => rw [itemsFrom, ih, List.zipIdx_cons, List.map_cons]

theorem select_wildcard (node : Document) : wildcard.select node = node.children := by
  cases node with
  | list items => exact itemsFrom_eq 0 items
  | _ => rfl

end Segment

namespace Document

theorem child?_of_mem_children (hkeys : node.HasDistinctKeys)
    (h : (step, child) ∈ node.children) : node.child? step = some child := by
  rw [← Segment.select_wildcard] at h
  exact Segment.child?_of_mem_select hkeys h

theorem mem_children (h : node.child? step = some child) : (step, child) ∈ node.children := by
  rcases child?_cases h with ⟨members, name, rfl, rfl, hget⟩ | ⟨items, i, rfl, rfl, hget⟩
  · exact List.mem_map.mpr ⟨(name, child), Members.mem_of_get? hget, rfl⟩
  · exact List.mem_map.mpr ⟨(child, i), List.mem_zipIdx_iff_getElem?.mpr hget, rfl⟩

theorem nodup_children (hkeys : node.HasDistinctKeys) : (node.children.map (·.1)).Nodup := by
  rw [← Segment.select_wildcard]
  exact Segment.nodup_select hkeys trivial

/-- The children at a step are the one that stands there, where there is one. -/
theorem filter_children (hkeys : node.HasDistinctKeys) (step : Step) :
    node.children.filter (fun entry => entry.1 = step)
      = ((node.child? step).map (step, ·)).toList := by
  have hnodup : (node.children.filter fun entry => entry.1 = step).Nodup :=
    (List.Nodup.of_map _ (nodup_children hkeys)).filter _
  have hmem : ∀ entry, entry ∈ node.children.filter (fun entry => entry.1 = step) ↔
      entry ∈ ((node.child? step).map (step, ·)).toList := by
    rintro ⟨other, value⟩
    rw [List.mem_filter, Option.mem_toList, Option.map_eq_some_iff]
    constructor
    · rintro ⟨hchild, hstep⟩
      obtain rfl : other = step := of_decide_eq_true hstep
      exact ⟨value, child?_of_mem_children hkeys hchild, rfl⟩
    · rintro ⟨_, hchild, heq⟩
      obtain ⟨rfl, rfl⟩ := Prod.mk.inj heq
      exact ⟨mem_children hchild, decide_eq_true rfl⟩
  -- Lists without duplicates that have the same members, of which there is one at most.
  cases hchild : node.child? step with
  | none =>
    rw [hchild] at hmem
    exact List.eq_nil_iff_forall_not_mem.mpr fun entry hentry => by
      simpa using (hmem entry).mp hentry
  | some value =>
    rw [hchild] at hmem
    exact List.perm_singleton.mp
      ((List.perm_ext_iff_of_nodup hnodup (List.nodup_singleton _)).mpr hmem)

end Document

/-! ### Children that a segment selects -/

namespace Segment

/-- Does the segment select the child at a step?  A key stands for the item at the position that it
denotes, too. -/
def admits : Segment → Step → Bool
  | key name, .key other => other = name
  | key name, .index position => positionOfKey? name = some position
  | index position, .index other => other = position
  | wildcard, _ => true
  | _, _ => false

/-- The children that the segment selects of a node, in document order; for a list of keys, the
members under these keys in the order of the list. -/
def chosen : Segment → Document → List (Step × Document)
  | keys names, node =>
    names.flatMap fun name => node.children.filter fun entry => entry.1 = .key name
  | segment, node => node.children.filter fun entry => segment.admits entry.1

/-- Where a segment admits one step only, it chooses what stands at this step. -/
theorem filter_admits (hkeys : node.HasDistinctKeys) (step : Step)
    (h : ∀ entry ∈ node.children, segment.admits entry.1 = decide (entry.1 = step)) :
    node.children.filter (fun entry => segment.admits entry.1)
      = ((node.child? step).map (step, ·)).toList :=
  (List.filter_congr h).trans (Document.filter_children hkeys step)

/-- The search selects what the segment chooses. -/
theorem select_eq_chosen (segment : Segment) (hkeys : node.HasDistinctKeys) :
    segment.select node = segment.chosen node := by
  cases segment with
  | key name =>
    cases node with
    | object members =>
      refine (filter_admits hkeys (.key name) fun entry hentry => ?_).symm
      obtain ⟨member, -, rfl⟩ := List.mem_map.mp hentry
      simp [admits]
    | list items =>
      -- In a list a key of digits is the position that they write.
      show ((positionOfKey? name).bind (item? items)).toList = _
      cases hposition : positionOfKey? name with
      | none =>
        refine (List.filter_eq_nil_iff.mpr fun entry hentry => ?_).symm
        obtain ⟨item, -, rfl⟩ := List.mem_map.mp hentry
        simp [admits, hposition]
      | some position =>
        refine (filter_admits hkeys (.index position) fun entry hentry => ?_).symm
        obtain ⟨item, -, rfl⟩ := List.mem_map.mp hentry
        simp [admits, hposition, eq_comm]
    | _ => rfl
  | index position =>
    cases node with
    | object members =>
      refine (List.filter_eq_nil_iff.mpr fun entry hentry => ?_).symm
      obtain ⟨member, -, rfl⟩ := List.mem_map.mp hentry
      simp [admits]
    | list items =>
      refine (filter_admits hkeys (.index position) fun entry hentry => ?_).symm
      obtain ⟨item, -, rfl⟩ := List.mem_map.mp hentry
      simp [admits]
    | _ => rfl
  | keys names =>
    have hchosen : chosen (keys names) node
        = names.flatMap fun name => ((node.child? (.key name)).map (Step.key name, ·)).toList :=
      List.flatMap_congr fun name _ => Document.filter_children hkeys (.key name)
    rw [hchosen]
    cases node with
    | object members => exact List.filterMap_eq_flatMap_toList _ _
    | _ => exact (List.flatMap_eq_nil_iff.mpr fun _ _ => rfl).symm
  | wildcard =>
    rw [select_wildcard]
    exact (List.filter_eq_self.mpr fun _ _ => rfl).symm

theorem child?_of_mem_chosen (hkeys : node.HasDistinctKeys)
    (h : (step, child) ∈ segment.chosen node) : node.child? step = some child :=
  child?_of_mem_select hkeys (by rwa [select_eq_chosen segment hkeys])

end Segment

/-! ### The two searches -/

namespace JsonPath

/-- The places that the segments select, each with its node, searched depth first: for each child
that the first segment chooses, its step is followed by each place that the rest selects in it. -/
def visit : List Segment → Document → List (List Step × Document)
  | [], node => [([], node)]
  | segment :: rest, node =>
    (segment.chosen node).flatMap fun (step, child) =>
      (visit rest child).map fun (steps, reached) => (step :: steps, reached)

/-- Going on level by level from the places found so far comes to the same as going on depth first
from each of them. -/
theorem foldl_expand_eq_flatMap_visit (segments : List Segment)
    {found : List (List Step × Document)} (hkeys : ∀ place ∈ found, place.2.HasDistinctKeys) :
    segments.foldl expand found
      = found.flatMap fun (steps, node) =>
          (visit segments node).map fun (more, reached) => (steps ++ more, reached) := by
  induction segments generalizing found with
  | nil => simp [visit]
  | cons segment rest ih =>
    have hselect : ∀ place ∈ found, segment.select place.2 = segment.chosen place.2 :=
      fun place hplace => segment.select_eq_chosen (hkeys place hplace)
    have hdeeper : ∀ place ∈ expand found segment, place.2.HasDistinctKeys := by
      intro place hplace
      obtain ⟨parent, hparent, step, hselected, -⟩ := FoundAt.mem_expand hplace
      have hparentKeys := hkeys parent hparent
      exact hparentKeys.of_child (Segment.child?_of_mem_select hparentKeys hselected)
    rw [List.foldl_cons, ih hdeeper, expand, List.flatMap_assoc]
    refine List.flatMap_congr fun place hplace => ?_
    obtain ⟨before, node⟩ := place
    dsimp only
    rw [hselect _ hplace, List.flatMap_map, visit, List.map_flatMap]
    refine List.flatMap_congr fun entry _ => ?_
    simp [Function.comp_def]

/-- The two searches give the same places in the same order. -/
theorem find_eq_map_visit (path : JsonPath) (hkeys : doc.HasDistinctKeys) :
    path.find doc = (visit path.segments doc).map (·.1) := by
  rw [find, foldl_expand_eq_flatMap_visit path.segments (by simpa using hkeys)]
  simp

/-- At each place there is the node that was reached there, and the steps are those by which its
parents hold it. -/
theorem node?_of_mem_visit {segments : List Segment} (hkeys : doc.HasDistinctKeys)
    (h : (steps, node) ∈ visit segments doc) : doc.node? steps = some node := by
  induction segments generalizing doc steps with
  | nil =>
    obtain ⟨rfl, rfl⟩ := Prod.mk.inj (List.mem_singleton.mp h)
    rfl
  | cons segment rest ih =>
    obtain ⟨⟨step, child⟩, hchosen, hplace⟩ := List.mem_flatMap.mp h
    obtain ⟨⟨more, reached⟩, hmore, heq⟩ := List.mem_map.mp hplace
    obtain ⟨rfl, rfl⟩ := Prod.mk.inj heq
    have hchild := Segment.child?_of_mem_chosen hkeys hchosen
    rw [Document.node?, hchild]
    exact ih (hkeys.of_child hchild) hmore

theorem length_of_mem_visit {segments : List Segment} (h : (steps, node) ∈ visit segments doc) :
    steps.length = segments.length := by
  induction segments generalizing doc steps with
  | nil =>
    obtain ⟨rfl, -⟩ := Prod.mk.inj (List.mem_singleton.mp h)
    rfl
  | cons segment rest ih =>
    obtain ⟨entry, -, hplace⟩ := List.mem_flatMap.mp h
    obtain ⟨⟨more, reached⟩, hmore, heq⟩ := List.mem_map.mp hplace
    obtain ⟨rfl, rfl⟩ := Prod.mk.inj heq
    exact congrArg (· + 1) (ih hmore)

/-- A place that a path selects lies as deep as the path has segments, and there is a node. -/
theorem place_of_mem_find {path : JsonPath} (hkeys : doc.HasDistinctKeys)
    (h : steps ∈ path.find doc) :
    steps.length = path.segments.length ∧ (doc.node? steps).isSome := by
  rw [find_eq_map_visit path hkeys] at h
  obtain ⟨⟨steps, node⟩, hplace, rfl⟩ := List.mem_map.mp h
  exact ⟨length_of_mem_visit hplace, Option.isSome_of_eq_some (node?_of_mem_visit hkeys hplace)⟩

/-- The places that a path selects, in order, are those of the search that goes down from each child
before it turns to the next.  The steps of a place lead to the node that was reached there, and they
are the keys and positions by which its parents hold it.  No place is selected twice unless a list
of keys names a key twice. -/
theorem find_depth_first (path : JsonPath) (hkeys : doc.HasDistinctKeys) :
    path.find doc = (visit path.segments doc).map (·.1) ∧
      (∀ place ∈ visit path.segments doc,
        doc.getAt? place.1 = some place.2 ∧ doc.node? place.1 = some place.2) ∧
      (path.NamesOnce → (path.find doc).Nodup) := by
  refine ⟨find_eq_map_visit path hkeys, fun place hplace => ?_, nodup_find hkeys⟩
  have hnode := node?_of_mem_visit hkeys hplace
  exact ⟨Document.getAt?_of_node? hnode, hnode⟩

/-- A list of keys in its own order, and digits that lead into an object and into a list. -/
theorem find_depth_first_keys :
    let doc : Document := .object [("a", .list [.ofNat 1, .ofNat 2]),
      ("b", .object [("1", .ofNat 3), ("2", .ofNat 4)])]
    let path : JsonPath := ⟨[.keys ["b", "a"], .key "1"]⟩
    doc.HasDistinctKeys ∧ path.NamesOnce ∧
      path.find doc = [[.key "b", .key "1"], [.key "a", .index 1]] ∧ (path.find doc).Nodup ∧
      doc.getAt? [.key "a", .index 1] = some (.ofNat 2) := by
  intro doc path
  have hkeys : doc.HasDistinctKeys := by decide
  have honce : path.NamesOnce := by decide
  obtain ⟨hfind, hplaces, hnodup⟩ := path.find_depth_first hkeys
  refine ⟨hkeys, honce, hfind.trans rfl, hnodup honce, ?_⟩
  exact (hplaces ([.key "a", .index 1], .ofNat 2) (.tail _ (.head _))).1

end JsonPath

end ApiTools
