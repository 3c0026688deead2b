import ApiTools.Proofs.Document.FirstWins
import ApiTools.Spec.Parameters

/-!
# Parameters merged by name and location

A parameter that is added takes the place of the one with its key, so a merge has each key once, in
the place of its first occurrence and with the value of its last one
(`Spec.mergedParameters_last_wins`).  Both halves are said of one addition first: what it does to
the keys (`keys_addParameter`), and what is found under a key after it (`find?_addParameter`).
-/

namespace ApiTools.Spec

variable {known : List Document}

/-! ### One more parameter -/

theorem keys_addParameter (known : List Document) (parameter : Document) :
    (addParameter known parameter).map parameterKey
      = if parameterKey parameter ∈ known.map parameterKey then known.map parameterKey
        else known.map parameterKey ++ [parameterKey parameter] := by
  induction known with
  | nil => rfl
  | cons first rest ih =>
    rw [addParameter]
    by_cases hfirst : parameterKey first = parameterKey parameter
    · simp [hfirst]
    · have hfirst' : parameterKey parameter ≠ parameterKey first := Ne.symm hfirst
      rw [if_neg hfirst, List.map_cons, ih, List.map_cons]
      by_cases hrest : parameterKey parameter ∈ rest.map parameterKey
      · rw [if_pos hrest, if_pos (List.mem_cons_of_mem _ hrest)]
      · rw [if_neg hrest, if_neg (List.not_mem_cons_of_ne_of_not_mem hfirst' hrest),
          List.cons_append]

/-- The one with the key of the parameter that was added is this parameter. -/
theorem find?_addParameter (known : List Document) (parameter : Document)
    (key : Option String × Option String) :
    (addParameter known parameter).find? (parameterKey · = key)
      = if parameterKey parameter = key then some parameter
        else known.find? (parameterKey · = key) := by
  induction known with
  | nil => by_cases hkey : parameterKey parameter = key <;> simp [addParameter, hkey]
  | cons first rest ih =>
    rw [addParameter]
    by_cases hfirst : parameterKey first = parameterKey parameter
    · rw [if_pos hfirst, List.find?_cons, List.find?_cons, hfirst]
      by_cases hkey : parameterKey parameter = key <;> simp [hkey]
    · rw [if_neg hfirst, List.find?_cons, List.find?_cons, ih]
      by_cases hkey : parameterKey first = key
      · have hkey' : parameterKey parameter ≠ key := fun heq => hfirst (hkey.trans heq.symm)
        simp [hkey, hkey']
      · simp [hkey]

/-! ### All parameters -/

/-- The keys are added without repetition. -/
theorem keys_foldl_addParameter (declared known : List Document) :
    (declared.foldl addParameter known).map parameterKey
      = addNew (fun a b => decide (a = b)) (known.map parameterKey)
          (declared.map parameterKey) := by
  induction declared generalizing known with
  | nil => rfl
  | cons parameter rest ih =>
    rw [List.foldl_cons, ih, List.map_cons, addNew_cons, keys_addParameter]
    congr 1
    simp

/-- Under each key the last parameter with this key is found. -/
theorem find?_foldl_addParameter (declared known : List Document)
    (key : Option String × Option String) :
    (declared.foldl addParameter known).find? (parameterKey · = key)
      = (declared.findRev? (parameterKey · = key)).or (known.find? (parameterKey · = key)) := by
  induction declared generalizing known with
  | nil => rfl
  | cons parameter rest ih =>
    rw [List.foldl_cons, ih, find?_addParameter, List.findRev?]
    cases rest.findRev? (parameterKey · = key) with
    | some last => rfl
    | none => by_cases hkey : parameterKey parameter = key <;> simp [hkey]

theorem findRev?_append {α : Type} (p : α → Bool) (before after : List α) :
    (before ++ after).findRev? p = (after.findRev? p).or (before.findRev? p) := by
  rw [List.findRev?_eq_find?_reverse, List.findRev?_eq_find?_reverse,
    List.findRev?_eq_find?_reverse, List.reverse_append, List.find?_append]

theorem isSome_findRev? {α : Type} {p : α → Bool} {items : List α} :
    (items.findRev? p).isSome = true ↔ ∃ item ∈ items, p item = true := by
  rw [List.findRev?_eq_find?_reverse, List.find?_isSome]
  simp only [List.mem_reverse]

/-- Under keys that are all different each parameter is the one that is found. -/
theorem find?_of_nodup {parameter : Document} (hkeys : (known.map parameterKey).Nodup)
    (hmem : parameter ∈ known) :
    known.find? (parameterKey · = parameterKey parameter) = some parameter := by
  induction known with
  | nil => cases hmem
  | cons first rest ih =>
    rw [List.map_cons, List.nodup_cons] at hkeys
    rcases List.mem_cons.mp hmem with rfl | hrest
    · exact List.find?_cons_of_pos (by simp)
    · have hne : parameterKey first ≠ parameterKey parameter := fun heq =>
        hkeys.1 (heq ▸ List.mem_map_of_mem hrest)
      rw [List.find?_cons_of_neg (by simpa using hne), ih hkeys.2 hrest]

theorem find?_mergedParameters (spec : Spec) (op : Operation)
    (key : Option String × Option String) :
    (spec.mergedParameters op).find? (parameterKey · = key)
      = (spec.declaredParameters op).findRev? (parameterKey · = key) := by
  rw [mergedParameters, find?_foldl_addParameter, List.find?_nil, Option.or_none]

/-- The keys of the merged parameters are some of the declared ones, in the order in which these
occur first. -/
theorem keys_mergedParameters (spec : Spec) (op : Operation) :
    ((spec.mergedParameters op).map parameterKey).Sublist
        ((spec.declaredParameters op).map parameterKey) ∧
      ((spec.mergedParameters op).map parameterKey).Pairwise fun earlier later =>
        ((spec.declaredParameters op).map parameterKey).idxOf earlier
          < ((spec.declaredParameters op).map parameterKey).idxOf later := by
  obtain ⟨added, hadded, hsublist, -, horder⟩ :=
    exists_addNew id [] ((spec.declaredParameters op).map parameterKey)
  have hkeys : (spec.mergedParameters op).map parameterKey = added :=
    (keys_foldl_addParameter _ []).trans hadded
  -- the equality test of pairs is that of the parts
  have hbeq : (instBEqOfDecidableEq : BEq (Option String × Option String)) = instBEqProd :=
    lawful_beq_subsingleton _ _
  rw [List.map_id, List.map_id, hbeq] at horder
  rw [hkeys]
  exact ⟨hsublist, horder⟩

/-- The merged parameters of an operation have different keys.  These are the keys of the declared
parameters, those of the path before those of the operation, in the order in which they occur first;
and under each key stands the last declared parameter with this key.  Where the operation declares
one itself, it is the last one that the operation declares. -/
theorem mergedParameters_last_wins (spec : Spec) (op : Operation) :
    ((spec.mergedParameters op).map parameterKey).Nodup ∧
    (∀ key, key ∈ (spec.mergedParameters op).map parameterKey ↔
      key ∈ (spec.declaredParameters op).map parameterKey) ∧
    ((spec.mergedParameters op).map parameterKey).Pairwise (fun earlier later =>
      ((spec.declaredParameters op).map parameterKey).idxOf earlier
        < ((spec.declaredParameters op).map parameterKey).idxOf later) ∧
    (∀ parameter ∈ spec.mergedParameters op,
      (spec.declaredParameters op).findRev? (parameterKey · = parameterKey parameter)
        = some parameter) ∧
    ∀ own ∈ op.parameters.map spec.resolve, ∃ parameter ∈ spec.mergedParameters op,
      (op.parameters.map spec.resolve).findRev? (parameterKey · = parameterKey own)
        = some parameter := by
  obtain ⟨hsublist, horder⟩ := spec.keys_mergedParameters op
  have hnodup : ((spec.mergedParameters op).map parameterKey).Nodup :=
    horder.imp fun hlt heq => by simp [heq] at hlt
  -- what is declared under a key is merged under it
  have hmerged : ∀ key last,
      (spec.declaredParameters op).findRev? (parameterKey · = key) = some last →
        last ∈ spec.mergedParameters op ∧ parameterKey last = key := by
    intro key last hlast
    rw [← find?_mergedParameters] at hlast
    exact ⟨List.mem_of_find?_eq_some hlast, by simpa using List.find?_some hlast⟩
  refine ⟨hnodup, fun key => ⟨fun hmem => hsublist.subset hmem, fun hmem => ?_⟩, horder,
    fun parameter hmem => ?_, fun own hown => ?_⟩
  · obtain ⟨declared, hdeclared, rfl⟩ := List.mem_map.mp hmem
    obtain ⟨last, hlast⟩ := Option.isSome_iff_exists.mp (isSome_findRev?
      (p := (parameterKey · = parameterKey declared)).mpr ⟨declared, hdeclared, by simp⟩)
    obtain ⟨hlastMem, hkey⟩ := hmerged _ last hlast
    exact hkey ▸ List.mem_map_of_mem hlastMem
  · rw [← find?_mergedParameters, find?_of_nodup hnodup hmem]
  · obtain ⟨last, hlast⟩ := Option.isSome_iff_exists.mp (isSome_findRev?
      (p := (parameterKey · = parameterKey own)).mpr ⟨own, hown, by simp⟩)
    refine ⟨last, (hmerged (parameterKey own) last ?_).1, hlast⟩
    -- the operation's own parameters are declared after those of the path
    rw [declaredParameters, List.map_append, findRev?_append, hlast, Option.some_or]

end ApiTools.Spec
