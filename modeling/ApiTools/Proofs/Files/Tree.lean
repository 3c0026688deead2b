import ApiTools.Proofs.Files.Path
import Mathlib.Data.List.Induction

/-!
# What stands in a tree of files

A tree is known by what stands at each place: `FileTree.set` and `FileTree.erase` change that at one
place.  `FileTree.ways` lists the places on the way that names lead.  A way can be gone if the
places before its end are directories (`FileTree.walk_eq_ok_iff`), and after directories were made
on a way all of its places are directories (`FileTree.areDirectories_makeDirectories`).
-/

namespace ApiTools.FileTree

variable {tree other after : FileTree} {place spot : Place} {entry : FileEntry}
  {name : String} {names more : List String}

/-! ### Entries -/

@[simp] theorem entry?_nil (tree : FileTree) : tree.entry? [] = some .directory := if_pos rfl

theorem entry?_of_ne_nil (tree : FileTree) (h : spot ≠ []) :
    tree.entry? spot = tree.entries.lookup spot := if_neg h

theorem lookup_filter_of_ne (h : spot ≠ place) (entries : List (Place × FileEntry)) :
    (entries.filter fun e => e.1 ≠ place).lookup spot = entries.lookup spot := by
  induction entries with
  | nil => rfl
  | cons first rest ih =>
    obtain ⟨other, entry⟩ := first
    by_cases hother : other = place
    · have hspot : (spot == other) = false := by
        rw [beq_eq_false_iff_ne, hother]
        exact h
      rw [List.filter_cons_of_neg (by simpa using hother), ih, List.lookup_cons, hspot]
    · rw [List.filter_cons_of_pos (by simpa using hother), List.lookup_cons, List.lookup_cons, ih]

theorem lookup_filter_self (entries : List (Place × FileEntry)) :
    (entries.filter fun e => e.1 ≠ place).lookup place = none := by
  rw [List.lookup_eq_none_iff]
  intro found hfound
  rw [List.mem_filter, decide_eq_true_eq] at hfound
  rw [bne_iff_ne]
  exact Ne.symm hfound.2

theorem entry?_erase_of_ne (tree : FileTree) (h : spot ≠ place) :
    entry? (tree.erase place) spot = tree.entry? spot := by
  unfold entry? erase
  rw [lookup_filter_of_ne h]

theorem entry?_erase_self (tree : FileTree) (h : place ≠ []) :
    entry? (tree.erase place) place = none := by
  rw [entry?_of_ne_nil _ h]
  exact lookup_filter_self tree.entries

theorem entry?_set_of_ne (tree : FileTree) (entry : FileEntry) (h : spot ≠ place) :
    entry? (tree.set place entry) spot = tree.entry? spot := by
  have hnone : [(place, entry)].lookup spot = none := by
    rw [List.lookup_cons, beq_eq_false_iff_ne.mpr h]
    rfl
  unfold entry? set
  rw [List.lookup_append, lookup_filter_of_ne h, hnone, Option.or_none]

theorem entry?_set_self (tree : FileTree) (entry : FileEntry) (h : place ≠ []) :
    entry? (tree.set place entry) place = some entry := by
  rw [entry?_of_ne_nil _ h]
  unfold set
  rw [List.lookup_append, lookup_filter_self, Option.none_or, List.lookup_cons, beq_self_eq_true]

/-- What was put at a place is not there any more when the place is cleared. -/
theorem erase_set (tree : FileTree) (place : Place) (entry : FileEntry) :
    (tree.set place entry).erase place = tree.erase place := by
  unfold set erase
  rw [List.filter_append, List.filter_filter]
  simp

/-! ### Ways -/

/-- The places on the way that the names lead from a place, with both ends. -/
def ways (place : Place) : List String → List Place
  | [] => [place]
  | name :: rest => place :: ways (step place name) rest

/-- Are there directories at the places? -/
def AreDirectories (tree : FileTree) (places : List Place) : Prop :=
  ∀ place ∈ places, tree.entry? place = some .directory

/-- Directories stay when something is put where there is none. -/
theorem AreDirectories.set {places : List Place} (h : tree.AreDirectories places)
    (hplace : tree.entry? place ≠ some .directory) (entry : FileEntry) :
    AreDirectories (tree.set place entry) places := by
  intro spot hspot
  have hdirectory := h spot hspot
  have hne : spot ≠ place := by
    rintro rfl
    exact hplace hdirectory
  rwa [entry?_set_of_ne _ _ hne]

theorem ways_ne_nil (place : Place) (names : List String) : ways place names ≠ [] := by
  cases names <;> exact List.cons_ne_nil _ _

theorem self_mem_ways (place : Place) (names : List String) : place ∈ ways place names := by
  cases names <;> exact List.mem_cons_self ..

theorem dropLast_ways_cons (place : Place) (name : String) (rest : List String) :
    (ways place (name :: rest)).dropLast = place :: (ways (step place name) rest).dropLast :=
  List.dropLast_cons_of_ne_nil (ways_ne_nil _ _)

theorem ways_append (place : Place) (names more : List String) :
    ways place (names ++ more)
      = (ways place names).dropLast ++ ways (names.foldl step place) more := by
  induction names generalizing place with
  | nil => rfl
  | cons name rest ih =>
    rw [List.cons_append, ways, ih, dropLast_ways_cons]
    rfl

theorem getLast_ways (place : Place) (names : List String) :
    (ways place names).getLast (ways_ne_nil _ _) = names.foldl step place := by
  induction names generalizing place with
  | nil => rfl
  | cons name rest ih =>
    simp only [ways, List.getLast_cons (ways_ne_nil _ _), ih, List.foldl_cons]

theorem foldl_mem_ways (place : Place) (names : List String) :
    names.foldl step place ∈ ways place names :=
  getLast_ways place names ▸ List.getLast_mem _

theorem ways_concat (place : Place) (names : List String) (name : String) :
    ways place (names ++ [name]) = ways place names ++ [step (names.foldl step place) name] := by
  have hlast : (ways place names).dropLast ++ [names.foldl step place] = ways place names := by
    rw [← getLast_ways, List.dropLast_concat_getLast]
  have htwo : ways (names.foldl step place) [name]
      = [names.foldl step place] ++ [step (names.foldl step place) name] := rfl
  rw [ways_append, htwo, ← List.append_assoc, hlast]

/-- What lies above the end of a way from the root is passed on the way. -/
theorem mem_ways_of_above (h : spot <+: names.foldl step []) : spot ∈ ways [] names := by
  induction names using List.reverseRecOn generalizing spot with
  | nil =>
    rw [List.foldl_nil, List.prefix_nil] at h
    rw [h]
    exact List.mem_singleton_self _
  | append_singleton names name ih =>
    have hend : (names ++ [name]).foldl step [] = step (names.foldl step []) name := by
      rw [List.foldl_append]
      rfl
    rw [hend] at h
    rw [ways_concat, List.mem_append, List.mem_singleton]
    unfold step at h
    split_ifs at h with hup
    · exact .inl (ih (h.trans (List.dropLast_prefix _)))
    · rcases List.prefix_concat_iff.mp h with rfl | habove
      · exact .inr (if_neg hup).symm
      · exact .inl (ih habove)

/-- A way can be gone if the places before its end are directories. -/
theorem walk_eq_ok_iff : tree.walk place names = .ok spot ↔
    spot = names.foldl step place ∧ tree.AreDirectories (ways place names).dropLast := by
  induction names generalizing place with
  | nil =>
    have hnone : tree.AreDirectories (ways place []).dropLast := fun _ h => absurd h List.not_mem_nil
    refine ⟨fun h => ⟨(Except.ok.inj h).symm, hnone⟩, ?_⟩
    rintro ⟨rfl, -⟩
    rfl
  | cons name rest ih =>
    rw [dropLast_ways_cons, walk]
    unfold AreDirectories
    rw [List.forall_mem_cons]
    rcases tree.entry? place with _ | (_ | content)
    · simp
    · exact ih.trans (by simp [AreDirectories])
    · simp

theorem walk_congr (h : ∀ spot ∈ ways place names, tree.entry? spot = other.entry? spot) :
    tree.walk place names = other.walk place names := by
  induction names generalizing place with
  | nil => rfl
  | cons name rest ih =>
    rw [ways, List.forall_mem_cons] at h
    rw [walk, walk, h.1, ih h.2]

theorem locate_congr {path : String}
    (h : ∀ spot ∈ ways [] (Path.parts path), tree.entry? spot = other.entry? spot) :
    tree.locate path = other.locate path := by
  unfold locate
  rw [walk_congr h]
  rcases hwalk : other.walk [] (Path.parts path) with cause | spot
  · rfl
  · have hspot := (walk_eq_ok_iff.mp hwalk).1
    have hentry : tree.entry? spot = other.entry? spot := h spot (hspot ▸ foldl_mem_ways _ _)
    dsimp only
    rw [hentry]

/-- A path that is located leads to its place. -/
theorem locate_eq_ok {path : String} (h : tree.locate path = .ok spot) :
    spot = Path.place path ∧ tree.AreDirectories (ways [] (Path.parts path)).dropLast := by
  unfold locate at h
  by_cases hempty : path.isEmpty = true
  · rw [if_pos hempty] at h
    cases h
  rw [if_neg hempty] at h
  rcases hwalk : tree.walk [] (Path.parts path) with cause | found
  · rw [hwalk] at h
    cases h
  rw [hwalk] at h
  have hspot : found = spot := by
    dsimp only at h
    split at h
    · by_cases hslash : Path.endsInSlash path = true
      · rw [if_pos hslash] at h
        cases h
      · rw [if_neg hslash] at h
        exact Except.ok.inj h
    · exact Except.ok.inj h
  rw [hspot] at hwalk
  exact walk_eq_ok_iff.mp hwalk

/-- A name in a directory to which there is a way can be located. -/
theorem locate_join {base : String} (hname : Path.IsSegment name)
    (h : tree.AreDirectories (ways [] (Path.parts base))) :
    tree.locate (Path.join base name) = .ok (Path.place base ++ [name]) := by
  have hwalk : tree.walk [] (Path.parts (Path.join base name)) = .ok (Path.place base ++ [name]) := by
    rw [Path.parts_join base hname, walk_eq_ok_iff, ways_concat, List.dropLast_concat,
      List.foldl_append]
    exact ⟨(hname.step _).symm, h⟩
  unfold locate
  rw [Path.join_ne_empty base hname, if_neg Bool.false_ne_true, hwalk,
    Path.not_endsInSlash_join base hname]
  dsimp only
  split
  · rfl
  · rfl

/-! ### Making directories -/

/-- What holds of a tree and is kept by each directory that is missing on the way holds after the
directories were made. -/
theorem makeDirectories_induct {P : FileTree → Prop}
    (hset : ∀ t, ∀ spot ∈ ways place names, t.entry? spot = none → P t → P (t.set spot .directory))
    (htree : P tree) (h : tree.makeDirectories place names = .ok after) : P after := by
  induction names generalizing place tree with
  | nil => exact Except.ok.inj h ▸ htree
  | cons name rest ih =>
    have hrest : ∀ t, ∀ spot ∈ ways (step place name) rest, t.entry? spot = none → P t →
        P (t.set spot .directory) := fun t spot hspot => hset t spot (List.mem_cons_of_mem _ hspot)
    have hnext : step place name ∈ ways (step place name) rest := self_mem_ways _ _
    rw [makeDirectories] at h
    rcases hentry : tree.entry? (step place name) with _ | (_ | content)
    · simp only [hentry] at h
      exact ih hrest (hrest tree _ hnext hentry htree) h
    · simp only [hentry] at h
      exact ih hrest htree h
    · simp only [hentry] at h
      cases h

/-- What stands somewhere is left there when directories are made. -/
theorem entry?_makeDirectories (h : tree.makeDirectories place names = .ok after)
    (hspot : tree.entry? spot = some entry) : after.entry? spot = some entry := by
  refine makeDirectories_induct (P := fun t => t.entry? spot = some entry) ?_ hspot h
  intro t missing _ hnone ht
  have hne : spot ≠ missing := by
    rintro rfl
    rw [ht] at hnone
    cases hnone
  rw [entry?_set_of_ne _ _ hne]
  exact ht

/-- After directories were made there are directories on the whole way. -/
theorem areDirectories_makeDirectories (hplace : tree.entry? place = some .directory)
    (h : tree.makeDirectories place names = .ok after) :
    after.AreDirectories (ways place names) := by
  induction names generalizing place tree with
  | nil =>
    intro spot hspot
    rw [List.mem_singleton.mp hspot]
    exact entry?_makeDirectories h hplace
  | cons name rest ih =>
    have hstart := entry?_makeDirectories h hplace
    intro spot hspot
    rcases List.mem_cons.mp hspot with rfl | hspot
    · exact hstart
    · rw [makeDirectories] at h
      rcases hentry : tree.entry? (step place name) with _ | (_ | content)
      · simp only [hentry] at h
        refine ih ?_ h spot hspot
        by_cases hroot : step place name = []
        · rw [hroot, entry?_nil]
        · exact entry?_set_self _ _ hroot
      · simp only [hentry] at h
        exact ih hentry h spot hspot
      · simp only [hentry] at h
        cases h

/-- Where there are directories on the whole way none is made. -/
theorem makeDirectories_of_areDirectories (h : tree.AreDirectories (ways place names)) :
    tree.makeDirectories place names = .ok tree := by
  induction names generalizing place with
  | nil => rfl
  | cons name rest ih =>
    have hrest : tree.AreDirectories (ways (step place name) rest) := fun spot hspot =>
      h spot (List.mem_cons_of_mem _ hspot)
    have hnext : tree.entry? (step place name) = some .directory :=
      hrest _ (self_mem_ways _ _)
    rw [makeDirectories]
    simp only [hnext]
    exact ih hrest

/-- Directories on a way are made one part of the way after the other. -/
theorem makeDirectories_append (h : tree.makeDirectories place names = .ok after) :
    tree.makeDirectories place (names ++ more)
      = after.makeDirectories (names.foldl step place) more := by
  induction names generalizing place tree with
  | nil =>
    cases h
    rfl
  | cons name rest ih =>
    rw [List.cons_append, makeDirectories]
    rw [makeDirectories] at h
    rcases hentry : tree.entry? (step place name) with _ | (_ | content)
    · simp only [hentry] at h ⊢
      exact ih h
    · simp only [hentry] at h ⊢
      exact ih h
    · simp only [hentry] at h
      cases h

theorem areDirectories_createDirectories {path : String}
    (h : tree.createDirectories path = .ok after) :
    after.AreDirectories (ways [] (Path.parts path)) :=
  areDirectories_makeDirectories tree.entry?_nil h

/-! ### Trees that differ at one place -/

/-- Does the same stand in the trees everywhere but at the place? -/
def AgreeBut (place : Place) (tree other : FileTree) : Prop :=
  ∀ spot, spot ≠ place → tree.entry? spot = other.entry? spot

theorem AgreeBut.refl (place : Place) (tree : FileTree) : AgreeBut place tree tree :=
  fun _ _ => rfl

theorem agreeBut_set (tree : FileTree) (place : Place) (entry : FileEntry) :
    AgreeBut place tree (tree.set place entry) :=
  fun _ h => (entry?_set_of_ne tree entry h).symm

theorem AgreeBut.set (h : AgreeBut place tree other) (spot : Place) (entry : FileEntry) :
    AgreeBut place (tree.set spot entry) (other.set spot entry) := by
  intro found hfound
  by_cases hspot : found = spot
  · subst hspot
    by_cases hroot : found = []
    · rw [hroot, entry?_nil, entry?_nil]
    · rw [entry?_set_self _ _ hroot, entry?_set_self _ _ hroot]
  · rw [entry?_set_of_ne _ _ hspot, entry?_set_of_ne _ _ hspot, h found hfound]

theorem AgreeBut.erase (h : AgreeBut place tree other) (spot : Place) :
    AgreeBut place (tree.erase spot) (other.erase spot) := by
  intro found hfound
  by_cases hspot : found = spot
  · subst hspot
    by_cases hroot : found = []
    · rw [hroot, entry?_nil, entry?_nil]
    · rw [entry?_erase_self _ hroot, entry?_erase_self _ hroot]
  · rw [entry?_erase_of_ne _ hspot, entry?_erase_of_ne _ hspot, h found hfound]

/-- What comes of two trees: both fail alike, or they agree but for the place. -/
inductive SameBut (place : Place) : Except FileError FileTree → Except FileError FileTree → Prop
  | error (cause : FileError) : SameBut place (.error cause) (.error cause)
  | ok {tree other : FileTree} (h : AgreeBut place tree other) : SameBut place (.ok tree) (.ok other)

/-- A place that is not on the way plays no part in making directories. -/
theorem AgreeBut.makeDirectories {start : Place} (h : AgreeBut place tree other)
    (hplace : place ∉ ways start names) :
    SameBut place (tree.makeDirectories start names) (other.makeDirectories start names) := by
  induction names generalizing start tree other with
  | nil => exact .ok h
  | cons name rest ih =>
    have hrest : place ∉ ways (step start name) rest := fun hmem =>
      hplace (List.mem_cons_of_mem _ hmem)
    have hnext : tree.entry? (step start name) = other.entry? (step start name) := by
      refine h _ ?_
      rintro rfl
      exact hrest (self_mem_ways _ _)
    rw [FileTree.makeDirectories, FileTree.makeDirectories]
    rcases hentry : other.entry? (step start name) with _ | (_ | content)
    · simp only [hnext, hentry]
      exact ih (h.set _ _) hrest
    · simp only [hnext, hentry]
      exact ih h hrest
    · simp only [hnext, hentry]
      exact .error _

theorem AgreeBut.createDirectories {path : String} (h : AgreeBut place tree other)
    (hplace : place ∉ ways [] (Path.parts path)) :
    SameBut place (tree.createDirectories path) (other.createDirectories path) :=
  AgreeBut.makeDirectories h hplace

end ApiTools.FileTree
