import ApiTools.Files.Tree
import ApiTools.Proofs.Text.Pieces
import Mathlib.Data.List.TakeWhile
import Mathlib.Tactic.SplitIfs

/-!
# Where paths lead

`Path.place` is the place that the parts of a path lead to from the root.  A name that is joined to
a directory is the last part of the path (`Path.place_join`), and what `Path.fileName?` gives is the
last part of any path that has one (`Path.parts_of_fileName?`).
-/

namespace ApiTools

namespace Path

/-! ### Names in directories -/

/-- Is the text the name of something in a directory? -/
def IsSegment (name : String) : Prop :=
  name ≠ "" ∧ name ≠ "." ∧ name ≠ ".." ∧ '/' ∉ name.toList

instance : DecidablePred IsSegment := fun name =>
  inferInstanceAs (Decidable (name ≠ "" ∧ name ≠ "." ∧ name ≠ ".." ∧ '/' ∉ name.toList))

/-- The place that a path leads to. -/
def place (path : String) : Place := (parts path).foldl FileTree.step []

variable {path base front name text : String}

theorem IsSegment.no_slash (h : IsSegment name) : '/' ∉ name.toList := h.2.2.2

theorem isSegment_ofList {cs : List Char} (hempty : cs ≠ []) (hpoint : cs ≠ ['.'])
    (hpoints : cs ≠ ['.', '.']) (hslash : '/' ∉ cs) : IsSegment (String.ofList cs) := by
  have hchars : ∀ s : String, String.ofList cs = s → cs = s.toList := by
    rintro s rfl
    exact String.toList_ofList.symm
  exact ⟨fun h => hempty (hchars _ h), fun h => hpoint (hchars _ h), fun h => hpoints (hchars _ h),
    String.toList_ofList.symm ▸ hslash⟩

theorem isSegment_of_head {c : Char} (h : name.toList.head? = some c) (hpoint : c ≠ '.')
    (hslash : '/' ∉ name.toList) : IsSegment name := by
  refine ⟨?_, ?_, ?_, hslash⟩
  · rintro rfl
    cases h
  · rintro rfl
    exact hpoint (Option.some.inj h).symm
  · rintro rfl
    exact hpoint (Option.some.inj h).symm

theorem IsSegment.step (h : IsSegment name) (at? : Place) : FileTree.step at? name = at? ++ [name] :=
  if_neg h.2.2.1

/-! ### Parts -/

/-- Does what stands before a name in a path end where the name begins? -/
def IsFront (front : String) : Prop := front = "" ∨ ∃ before, front = before ++ "/"

theorem parts_append_slash (s t : String) : parts (s ++ "/" ++ t) = parts s ++ parts t := by
  have hchars : (s ++ "/" ++ t).toList = s.toList ++ '/' :: t.toList := by
    rw [String.toList_append, String.toList_append, List.append_assoc]
    rfl
  unfold parts Text.split Text.splitChars
  rw [hchars, Text.splitFrom_append, List.map_append, List.filter_append]

theorem parts_empty : parts "" = [] := by decide

theorem parts_slash (s : String) : parts (s ++ "/") = parts s := by
  have h := parts_append_slash s ""
  rwa [String.append_empty, parts_empty, List.append_nil] at h

theorem parts_of_isSegment (h : IsSegment name) : parts name = [name] := by
  have hsplit : Text.split name '/' = [name] := by
    unfold Text.split Text.splitChars
    rw [Text.splitFrom_of_not_mem h.no_slash, List.map_singleton, List.reverse_nil,
      List.nil_append, String.ofList_toList]
  unfold parts
  rw [hsplit, List.filter_cons_of_pos, List.filter_nil]
  simpa using ⟨h.1, h.2.1⟩

theorem IsFront.parts_append (h : IsFront front) (text : String) :
    parts (front ++ text) = parts front ++ parts text := by
  rcases h with rfl | ⟨before, rfl⟩
  · rw [String.empty_append, parts_empty, List.nil_append]
  · rw [parts_append_slash, parts_slash]

/-- A name is put behind a text with the parts of the directory. -/
theorem exists_join (base : String) (h : IsSegment name) :
    ∃ front, join base name = front ++ name ∧ IsFront front ∧ parts front = parts base := by
  have hrelative : isAbsolute name = false := by
    unfold isAbsolute
    rw [beq_eq_false_iff_ne]
    intro hhead
    exact h.no_slash (List.mem_of_head? hhead)
  unfold join
  rw [hrelative, Bool.false_or]
  split_ifs with hempty hslash
  · rw [String.isEmpty_iff] at hempty
    subst hempty
    exact ⟨"", String.empty_append.symm, .inl rfl, rfl⟩
  · refine ⟨base, rfl, .inr ?_, rfl⟩
    obtain ⟨before, hbefore⟩ := List.getLast?_eq_some_iff.mp (beq_iff_eq.mp hslash)
    refine ⟨String.ofList before, ?_⟩
    rw [← String.toList_inj, hbefore, String.toList_append, String.toList_ofList]
    rfl
  · exact ⟨base ++ "/", rfl, .inr ⟨base, rfl⟩, parts_slash base⟩

theorem parts_join (base : String) (h : IsSegment name) :
    parts (join base name) = parts base ++ [name] := by
  obtain ⟨front, hjoin, hfront, hparts⟩ := exists_join base h
  rw [hjoin, hfront.parts_append, hparts, parts_of_isSegment h]

theorem place_of_parts (h : parts path = parts base ++ [name]) (hname : IsSegment name) :
    place path = place base ++ [name] := by
  unfold place
  rw [h, List.foldl_append, List.foldl_cons, List.foldl_nil, hname.step]

@[simp] theorem place_join (base : String) (h : IsSegment name) :
    place (join base name) = place base ++ [name] :=
  place_of_parts (parts_join base h) h

theorem not_endsInSlash_join (base : String) (h : IsSegment name) :
    endsInSlash (join base name) = false := by
  obtain ⟨front, hjoin, -, -⟩ := exists_join base h
  unfold endsInSlash
  rw [hjoin, String.toList_append, beq_eq_false_iff_ne]
  intro hlast
  have hne : name.toList ≠ [] := fun hnil => h.1 (String.toList_eq_nil_iff.mp hnil)
  rw [List.getLast?_append, List.getLast?_eq_some_getLast hne, Option.some_or] at hlast
  exact h.no_slash (Option.some.inj hlast ▸ List.getLast_mem hne)

theorem join_ne_empty (base : String) (h : IsSegment name) : (join base name).isEmpty = false := by
  obtain ⟨front, hjoin, -, -⟩ := exists_join base h
  rw [Bool.eq_false_iff, Ne, String.isEmpty_iff, hjoin]
  intro hempty
  exact h.1 (String.append_eq_empty_iff.mp hempty).2

/-! ### The last part -/

theorem isFront_ofList {cs : List Char} (h : ∀ c ∈ cs.head?, c = '/') :
    IsFront (String.ofList cs.reverse) := by
  cases cs with
  | nil => exact .inl rfl
  | cons c rest =>
    refine .inr ⟨String.ofList rest.reverse, ?_⟩
    have hc : c = '/' := h c rfl
    rw [← String.toList_inj, String.toList_append]
    simp [hc]

/-- What is dropped at the end says nothing about the parts. -/
theorem parts_dropTail (cs : List Char) :
    parts (String.ofList (dropTail cs).reverse) = parts (String.ofList cs.reverse) := by
  have hend : ∀ (rest : List Char) (s : String), parts s = [] →
      parts (String.ofList rest.reverse ++ "/" ++ s) = parts (String.ofList rest.reverse) := by
    intro rest s hs
    rw [parts_append_slash, hs, List.append_nil]
  fun_induction dropTail cs with
  | case1 rest ih =>
    rw [ih, ← hend rest "" parts_empty]
    simp
  | case2 rest ih =>
    rw [ih, ← hend rest "." (by decide)]
    congr 1
    rw [← String.toList_inj]
    simp
  | case3 => rfl

/-- The last part of a path that has a name stands behind the parts of its directory. -/
theorem parts_of_fileName? (h : fileName? path = some name) :
    parts path = parts ((parent? path).getD "") ++ [name] ∧ IsSegment name := by
  unfold fileName? at h
  dsimp only at h
  have hwhole : parts (String.ofList (dropTail path.toList.reverse).reverse) = parts path := by
    rw [parts_dropTail, List.reverse_reverse, String.ofList_toList]
  unfold parent?
  generalize dropTail path.toList.reverse = cs at h hwhole
  split_ifs at h with hnone
  cases h
  simp only [Bool.or_eq_true, decide_eq_true_eq, not_or] at hnone
  -- The name stands behind the last slash, with which the directory ends.
  have hslash : '/' ∉ (cs.takeWhile (· ≠ '/')).reverse := by
    rw [List.mem_reverse]
    intro hslash
    simpa using List.mem_takeWhile_imp hslash
  have hsegment := isSegment_ofList hnone.1.1 hnone.1.2 hnone.2 hslash
  refine ⟨?_, hsegment⟩
  have hfront : IsFront (String.ofList (cs.dropWhile (· ≠ '/')).reverse) := by
    refine isFront_ofList fun c hc => ?_
    have hnot := List.head?_dropWhile_not (· ≠ '/') cs
    rw [Option.mem_def.mp hc] at hnot
    simpa using hnot
  have hcut : String.ofList cs.reverse = String.ofList (cs.dropWhile (· ≠ '/')).reverse
      ++ String.ofList (cs.takeWhile (· ≠ '/')).reverse := by
    rw [← String.ofList_append, ← List.reverse_append, List.takeWhile_append_dropWhile]
  rw [← hwhole, hcut, hfront.parts_append, parts_of_isSegment hsegment]
  congr 1
  rw [← parts_dropTail]
  cases cs with
  | nil => exact absurd rfl hnone.1.1
  | cons c rest =>
    dsimp only [Option.getD_some]
    split_ifs with hroot
    · rw [Bool.and_eq_true, List.isEmpty_iff] at hroot
      rw [hroot.1]
      decide
    · rfl

theorem dropTail_ne_slash (cs rest : List Char) :
    dropTail cs ≠ '/' :: rest ∧ dropTail cs ≠ '.' :: '/' :: rest := by
  fun_induction dropTail cs with
  | case1 _ ih => exact ih
  | case2 _ ih => exact ih
  | case3 cs hslash hpoint => exact ⟨hslash rest, hpoint rest⟩

/-- A path without a name leads to the root or up. -/
theorem parts_of_fileName?_eq_none (h : fileName? path = none) :
    parts path = [] ∨ ∃ before, parts path = before ++ [".."] := by
  unfold fileName? at h
  dsimp only at h
  have hwhole : parts (String.ofList (dropTail path.toList.reverse).reverse) = parts path := by
    rw [parts_dropTail, List.reverse_reverse, String.ofList_toList]
  have hslash := fun rest => dropTail_ne_slash path.toList.reverse rest
  generalize dropTail path.toList.reverse = cs at h hwhole hslash
  have hcut := List.takeWhile_append_dropWhile (p := (· ≠ '/')) (l := cs)
  -- What follows the last part begins with a slash.
  have hrest : cs.dropWhile (· ≠ '/') = [] ∨ ∃ rest, cs.dropWhile (· ≠ '/') = '/' :: rest := by
    have hnot := List.head?_dropWhile_not (· ≠ '/') cs
    cases hdrop : cs.dropWhile (· ≠ '/') with
    | nil => exact .inl rfl
    | cons c rest =>
      rw [hdrop] at hnot
      have hc : c = '/' := by simpa using hnot
      exact .inr ⟨rest, by rw [hc]⟩
  rw [ite_eq_left_iff] at h
  simp only [reduceCtorEq, imp_false, not_not, Bool.or_eq_true, decide_eq_true_eq,
    List.reverse_eq_iff] at h
  rw [← hwhole]
  rcases h with (hname | hname) | hname <;> rw [hname] at hcut <;>
    rcases hrest with hrest | ⟨rest, hrest⟩ <;> rw [hrest] at hcut <;> subst hcut
  · exact .inl parts_empty
  · exact absurd rfl (hslash rest).1
  · exact .inl (by decide)
  · exact absurd rfl (hslash rest).2
  · exact .inr ⟨[], by decide⟩
  · refine .inr ⟨parts (String.ofList rest.reverse), ?_⟩
    have htext : String.ofList (['.', '.'].reverse ++ '/' :: rest).reverse
        = String.ofList rest.reverse ++ "/" ++ ".." := by
      rw [← String.toList_inj]
      simp
    rw [htext, parts_append_slash]
    congr 1

/-- Nothing is dropped at the end of a name. -/
theorem dropTail_reverse (h : IsSegment name) {rest : List Char} :
    dropTail (name.toList.reverse ++ rest) = name.toList.reverse ++ rest := by
  have hchars : ∀ c ∈ name.toList.reverse, c ≠ '/' := by
    intro c hc hslash
    rw [List.mem_reverse, hslash] at hc
    exact h.no_slash hc
  have hpoint : name.toList.reverse ≠ ['.'] := by
    intro hpoint
    refine h.2.1 ?_
    rw [← String.toList_inj, ← List.reverse_reverse name.toList, hpoint]
    rfl
  have hne : name.toList.reverse ≠ [] := by
    rw [Ne, List.reverse_eq_nil_iff, String.toList_eq_nil_iff]
    exact h.1
  generalize name.toList.reverse = cs at hchars hpoint hne
  match cs, hne with
  | [c], _ =>
    have hslash : c ≠ '/' := hchars c (List.mem_singleton_self c)
    have hc : c ≠ '.' := fun heq => hpoint (by rw [heq])
    rw [List.singleton_append, dropTail] <;> simp [hslash, hc]
  | c :: d :: more, _ =>
    have hslash : c ≠ '/' := hchars c (List.mem_cons_self ..)
    have hnext : d ≠ '/' := hchars d (List.mem_cons_of_mem _ (List.mem_cons_self ..))
    rw [List.cons_append, List.cons_append, dropTail] <;> simp [hslash, hnext]

theorem fileName?_join (base : String) (h : IsSegment name) :
    fileName? (join base name) = some name := by
  obtain ⟨front, hjoin, hfront, -⟩ := exists_join base h
  have hname : (name.toList.reverse ++ front.toList.reverse).takeWhile (· ≠ '/')
      = name.toList.reverse := by
    have hslash : ∀ c ∈ name.toList.reverse, decide (c ≠ '/') = true := by
      intro c hc
      rw [decide_eq_true_eq]
      rintro rfl
      exact h.no_slash (List.mem_reverse.mp hc)
    rw [List.takeWhile_append_of_pos hslash]
    rcases hfront with rfl | ⟨before, rfl⟩
    · exact List.append_nil _
    · simp
  unfold fileName?
  rw [hjoin, String.toList_append, List.reverse_append, dropTail_reverse h, hname]
  dsimp only
  rw [List.reverse_reverse, String.ofList_toList, if_neg]
  have hchars : ∀ s : String, name.toList = s.toList → name = s := fun s => String.toList_inj.mp
  simp only [Bool.or_eq_true, decide_eq_true_eq]
  rintro ((hempty | hpoint) | hpoints)
  · exact h.1 (hchars "" hempty)
  · exact h.2.1 (hchars "." hpoint)
  · exact h.2.2.1 (hchars ".." hpoints)

theorem fileName?_of_isSegment (h : IsSegment name) : fileName? name = some name := by
  have hjoin : join "" name = name := by simp [join]
  rw [← hjoin, fileName?_join "" h, hjoin]

/-! ### Directories -/

/-- A path with a name has a directory. -/
theorem exists_parent? (h : fileName? path = some name) : ∃ parent, parent? path = some parent := by
  unfold fileName? at h
  unfold parent?
  generalize dropTail path.toList.reverse = cs at h
  cases cs with
  | nil => cases h
  | cons c rest => exact ⟨_, rfl⟩

theorem place_of_fileName? (h : fileName? path = some name) :
    place path = place ((parent? path).getD "") ++ [name] := by
  obtain ⟨hparts, hname⟩ := parts_of_fileName? h
  exact place_of_parts hparts hname

theorem parts_parent?_join (base : String) (h : IsSegment name) :
    parts ((parent? (join base name)).getD "") = parts base := by
  have hlast := (parts_of_fileName? (fileName?_join base h)).1
  rw [parts_join base h] at hlast
  exact (List.append_cancel_right hlast).symm

end Path

end ApiTools
