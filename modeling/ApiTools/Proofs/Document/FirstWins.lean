import ApiTools.Proofs.Document.Keys

/-!
# Lists without repetition, first come first kept

`addNew same known more` puts those of the later entries after the known ones that none before them
is the same as.  Where sameness is passed on, what is added in two goes is what is added in one
(`addNew_addNew`), and what is added is the later entries without the known ones and without
repetition (`addNew_eq`).  Members that are set where their key is not there yet are added so.
-/

namespace ApiTools

section AddNew

variable {α : Type} {same : α → α → Bool} {known first more : List α}

/-- The known entries, and of the later ones each that no entry before it is the same as. -/
def addNew (same : α → α → Bool) (known more : List α) : List α :=
  more.foldl (fun known x => if known.any (same · x) then known else known ++ [x]) known

theorem addNew_cons (x : α) (rest : List α) : addNew same known (x :: rest)
    = addNew same (if known.any (same · x) then known else known ++ [x]) rest := rfl

theorem addNew_append (second : List α) :
    addNew same known (more ++ second) = addNew same (addNew same known more) second :=
  List.foldl_append

theorem addNew_flatMap {β : Type} (f : β → List α) (xs : List β) : addNew same known (xs.flatMap f)
    = xs.foldl (fun known x => addNew same known (f x)) known :=
  List.foldl_flatMap

/-- What is added is the later entries without those that a known one is the same as, each of them
once. -/
theorem addNew_eq (same : α → α → Bool) (known more : List α) : addNew same known more = known ++
    (more.filter fun x => !known.any (same · x)).eraseDupsBy fun later earlier =>
      same earlier later := by
  induction more generalizing known with
  | nil => simp [addNew]
  | cons x rest ih =>
    rw [addNew_cons, ih]
    by_cases hx : known.any (same · x) = true
    · rw [if_pos hx, List.filter_cons_of_neg (by simp [hx])]
    · -- the first new entry joins the known ones, and those it is the same as are left out with them
      have hrest : (rest.filter fun y => !(known ++ [x]).any (same · y))
          = (rest.filter fun y => !known.any (same · y)).filter fun y =>
              decide (same x y = false) := by
        rw [List.filter_filter]
        congr 1
        funext y
        cases hknown : known.any (same · y) <;> cases hsame : same x y <;> simp [hknown, hsame]
      rw [if_neg hx, List.filter_cons_of_pos (by simpa using hx), List.eraseDupsBy_cons, hrest,
        List.append_assoc, List.singleton_append]

theorem addNew_nil_left (same : α → α → Bool) (more : List α) :
    addNew same [] more = more.eraseDupsBy fun later earlier => same earlier later := by
  rw [addNew_eq]
  simp

theorem mem_addNew_of_mem_known {x : α} (h : x ∈ known) : x ∈ addNew same known more := by
  rw [addNew_eq]
  exact List.mem_append_left _ h

theorem mem_or_mem_of_mem_addNew {x : α} (h : x ∈ addNew same known more) :
    x ∈ known ∨ x ∈ more := by
  induction more generalizing known with
  | nil => exact .inl h
  | cons first rest ih =>
    rw [addNew_cons] at h
    rcases ih h with hmem | hmem
    · split_ifs at hmem
      · exact .inl hmem
      · rcases List.mem_append.mp hmem with hmem | hmem
        · exact .inl hmem
        · exact .inr (List.mem_cons.mpr (.inl (List.mem_singleton.mp hmem)))
    · exact .inr (List.mem_cons_of_mem _ hmem)

/-- Each later entry is there, or one that it is the same as. -/
theorem mem_addNew_or_same (same : α → α → Bool) (known : List α) {x : α} (h : x ∈ more) :
    x ∈ addNew same known more ∨ ∃ y ∈ addNew same known more, same y x = true := by
  induction more generalizing known with
  | nil => cases h
  | cons z rest ih =>
    rcases List.mem_cons.mp h with rfl | hrest
    · rw [addNew_cons]
      by_cases hx : known.any (same · x) = true
      · obtain ⟨y, hy, hsame⟩ := List.any_eq_true.mp hx
        rw [if_pos hx]
        exact .inr ⟨y, mem_addNew_of_mem_known hy, hsame⟩
      · rw [if_neg hx]
        exact .inl (mem_addNew_of_mem_known (List.mem_append_right _ (List.mem_singleton_self x)))
    · exact ih _ hrest

/-- Adding what comes of adding is adding both in one go. -/
theorem addNew_addNew
    (htrans : ∀ x y z, same x y = true → same y z = true → same x z = true) (known first more) :
    addNew same known (addNew same first more) = addNew same known (first ++ more) := by
  induction more generalizing first with
  | nil => rw [List.append_nil]; rfl
  | cons x rest ih =>
    rw [addNew_cons, ih]
    by_cases hx : first.any (same · x) = true
    · -- an entry that the first list stands for is stood for once that list was added
      obtain ⟨y, hy, hyx⟩ := List.any_eq_true.mp hx
      have hfirst : (addNew same known first).any (same · x) = true := by
        rw [List.any_eq_true]
        rcases mem_addNew_or_same same known hy with hmem | ⟨z, hz, hzy⟩
        · exact ⟨y, hmem, hyx⟩
        · exact ⟨z, hz, htrans z y x hzy hyx⟩
      rw [if_pos hx, addNew_append, addNew_append, addNew_cons, if_pos hfirst]
    · rw [if_neg hx, List.append_assoc, List.singleton_append]

/-- Where no entry is the same as one before it, all are added. -/
theorem addNew_of_pairwise
    (h : (known ++ more).Pairwise fun earlier later => same earlier later = false) :
    addNew same known more = known ++ more := by
  induction more generalizing known with
  | nil => rw [List.append_nil]; rfl
  | cons x rest ih =>
    have hnew : ¬ known.any (same · x) = true := by
      rw [List.any_eq_true]
      rintro ⟨y, hy, hyx⟩
      have := (List.pairwise_append.mp h).2.2 y hy x (List.mem_cons_self ..)
      simp [hyx] at this
    rw [← List.singleton_append, ← List.append_assoc] at h ⊢
    rw [addNew_append, addNew_cons, if_neg hnew]
    exact ih h

/-- Among the entries of a kind, none that is added is the same as one before it. -/
theorem pairwise_filter_addNew {p : α → Bool}
    (h : (known.filter p).Pairwise fun earlier later => same earlier later = false) :
    ((addNew same known more).filter p).Pairwise fun earlier later =>
      same earlier later = false := by
  induction more generalizing known with
  | nil => exact h
  | cons x rest ih =>
    rw [addNew_cons]
    apply ih
    by_cases hx : known.any (same · x) = true
    · rw [if_pos hx]
      exact h
    · rw [if_neg hx, List.filter_append, List.pairwise_append]
      refine ⟨h, (List.pairwise_singleton ..).sublist List.filter_sublist, ?_⟩
      intro y hy z hz
      rw [List.mem_singleton.mp (List.mem_of_mem_filter hz)]
      cases hsame : same y x with
      | false => rfl
      | true => exact absurd (List.any_eq_true.mpr ⟨y, List.mem_of_mem_filter hy, hsame⟩) hx

end AddNew

section AddNewByKey

variable {α β : Type} [DecidableEq β] (key : α → β)

/-- Where sameness is to have one key, the entries added are some of the later ones in their order.
None has the key of a known one, and the keys come in the order in which they occur first. -/
theorem exists_addNew (known more : List α) :
    ∃ added, addNew (fun a b => decide (key a = key b)) known more = known ++ added ∧
      added.Sublist more ∧ (∀ a ∈ added, key a ∉ known.map key) ∧
      (added.map key).Pairwise fun k l => (more.map key).idxOf k < (more.map key).idxOf l := by
  induction more generalizing known with
  | nil => exact ⟨[], (List.append_nil known).symm, .slnil, by simp, .nil⟩
  | cons x rest ih =>
    -- past the first entry the places of all other keys are one further on
    have hplaces : ∀ {keys : List β}, key x ∉ keys →
        (keys.Pairwise fun k l => (rest.map key).idxOf k < (rest.map key).idxOf l) →
        keys.Pairwise fun k l =>
          ((x :: rest).map key).idxOf k < ((x :: rest).map key).idxOf l := by
      intro keys hx hpairwise
      refine hpairwise.imp_of_mem fun hk hl hlt => ?_
      rw [List.map_cons, List.idxOf_cons_ne _ (ne_of_mem_of_not_mem hk hx).symm,
        List.idxOf_cons_ne _ (ne_of_mem_of_not_mem hl hx).symm]
      omega
    have hany : known.any (fun a => decide (key a = key x)) = true ↔ key x ∈ known.map key := by
      simp
    rw [addNew_cons]
    split_ifs with hknown
    · obtain ⟨added, heq, hsublist, hfresh, horder⟩ := ih known
      refine ⟨added, heq, hsublist.cons x, hfresh, hplaces ?_ horder⟩
      rw [hany] at hknown
      intro hmem
      obtain ⟨a, ha, hkey⟩ := List.mem_map.mp hmem
      exact hfresh a ha (hkey ▸ hknown)
    · obtain ⟨added, heq, hsublist, hfresh, horder⟩ := ih (known ++ [x])
      simp only [List.map_append, List.map_singleton, List.mem_append, List.mem_singleton,
        not_or] at hfresh
      have hx : key x ∉ added.map key := by
        intro hmem
        obtain ⟨a, ha, hkey⟩ := List.mem_map.mp hmem
        exact (hfresh a ha).2 hkey
      refine ⟨x :: added, by rw [heq, List.append_assoc, List.singleton_append],
        hsublist.cons_cons x, ?_, ?_⟩
      · rw [List.forall_mem_cons]
        exact ⟨fun hmem => hknown (hany.mpr hmem), fun a ha => (hfresh a ha).1⟩
      · refine List.pairwise_cons.mpr ⟨fun k hk => ?_, hplaces hx horder⟩
        rw [List.map_cons, List.idxOf_cons_self,
          List.idxOf_cons_ne _ (ne_of_mem_of_not_mem hk hx).symm]
        omega

end AddNewByKey

namespace Members

variable {members : Members}

theorem has_eq_any (members : Members) (key : String) :
    has members key = members.any fun entry => entry.1 == key := by
  induction members with
  | nil => rfl
  | cons entry rest ih =>
    rw [has, get?_cons, List.any_cons, ← ih]
    by_cases hkey : entry.1 = key <;> simp [hkey, has]

/-- Of two members with one key the first is kept. -/
def sameKey (entry other : String × Document) : Bool := entry.1 == other.1

theorem sameKey_trans (a b c : String × Document) (hab : sameKey a b = true)
    (hbc : sameKey b c = true) : sameKey a c = true := by
  simp_all [sameKey]

theorem foldl_setIfAbsent (entries members : Members) :
    entries.foldl (fun members entry => setIfAbsent members entry.1 entry.2) members
      = addNew sameKey members entries := by
  unfold addNew
  congr 1
  funext members entry
  rw [setIfAbsent, has_eq_any]
  rfl

theorem get?_setIfAbsent (members : Members) (key : String) (value : Document) (other : String) :
    get? (setIfAbsent members key value) other
      = if key = other then some ((get? members key).getD value) else get? members other := by
  unfold setIfAbsent has
  cases hget : get? members key with
  | none =>
    have hset := get?_set members key value other
    rw [set_of_get?_eq_none hget] at hset
    simpa using hset
  | some v =>
    by_cases hkey : key = other
    · simp [← hkey, hget]
    · simp [hkey]

/-! ### Taking out by the last one -/

/-- Members with distinct keys are read alike in every order. -/
theorem get?_of_perm {others : Members} (hperm : members.Perm others)
    (distinct : (keys members).Nodup) (key : String) : get? members key = get? others key := by
  have distinct' : (keys others).Nodup :=
    (hperm.map (fun entry : String × Document => entry.1)).nodup_iff.mp distinct
  rw [Option.ext_iff]
  intro value
  constructor
  · intro h
    exact get?_of_mem distinct' (hperm.mem_iff.mp (mem_of_get? h))
  · intro h
    exact get?_of_mem distinct (hperm.mem_iff.mpr (mem_of_get? h))

theorem nodup_keys_erase (distinct : (keys members).Nodup) (key : String) :
    (keys (erase members key)).Nodup :=
  distinct.sublist (List.filter_sublist.map _)

/-- The last member in the gap is another order of the members without the key. -/
theorem eraseSwap_perm (distinct : (keys members).Nodup) (key : String) :
    (eraseSwap members key).Perm (erase members key) := by
  induction members with
  | nil => exact .refl _
  | cons entry rest ih =>
    obtain ⟨k, v⟩ := entry
    rw [keys, List.map_cons, List.nodup_cons] at distinct
    by_cases hk : k = key
    · have hrest : erase rest key = rest := by
        refine List.filter_eq_self.mpr fun entry hentry => ?_
        have hne : entry.1 ≠ key := fun heq =>
          distinct.1 (List.mem_map.mpr ⟨entry, hentry, heq.trans hk.symm⟩)
        simpa using hne
      have herase : erase ((k, v) :: rest) key = rest := by
        rw [erase, List.filter_cons_of_neg (by simp [hk])]
        exact hrest
      rw [eraseSwap, if_pos hk, herase]
      cases hlast : rest.getLast? with
      | none => rw [List.getLast?_eq_none_iff.mp hlast]
      | some last =>
        have hsplit : rest.dropLast ++ [last] = rest := List.dropLast_append_getLast? last hlast
        exact (List.perm_append_singleton last rest.dropLast).symm.trans (.of_eq hsplit)
    · rw [eraseSwap, if_neg hk, erase, List.filter_cons_of_pos (by simp [hk])]
      exact (ih distinct.2).cons _

theorem nodup_keys_eraseSwap (distinct : (keys members).Nodup) (key : String) :
    (keys (eraseSwap members key)).Nodup :=
  ((eraseSwap_perm distinct key).map (fun entry : String × Document => entry.1)).nodup_iff.mpr
    (nodup_keys_erase distinct key)

theorem get?_eraseSwap (distinct : (keys members).Nodup) (key other : String) :
    get? (eraseSwap members key) other = if other = key then none else get? members other := by
  rw [get?_of_perm (eraseSwap_perm distinct key) (nodup_keys_eraseSwap distinct key), get?_erase]

end Members

end ApiTools
