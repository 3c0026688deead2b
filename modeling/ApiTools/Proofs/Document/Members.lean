import ApiTools.Document
import Mathlib.Data.List.Forall2

/-!
# Laws of members

What is read at a key after a member was set or taken out (`get?_set`, `get?_erase`), and objects
that agree key by key: `Members.Related R` holds of two lists of members with the same keys in the
same order whose values are related at each key.  Later proofs build such a pair with `Related.set`
and use one through `Related.get?`.
-/

namespace ApiTools.Members

/-! ### Reading after writing -/

@[simp] theorem get?_nil (key : String) : get? [] key = none := rfl

theorem get?_cons (k : String) (v : Document) (rest : Members) (key : String) :
    get? ((k, v) :: rest) key = if k = key then some v else get? rest key := by
  unfold get?
  rw [List.lookup_cons]
  by_cases h : k = key
  · simp [h]
  · have : (key == k) = false := by simpa using fun e : key = k => h e.symm
    simp [h, this]

theorem get?_set (members : Members) (key : String) (value : Document) (other : String) :
    get? (set members key value) other
      = if key = other then some value else get? members other := by
  induction members with
  | nil => rw [set, get?_cons, get?_nil]
  | cons entry rest ih =>
    obtain ⟨k, v⟩ := entry
    rw [set]
    by_cases hk : k = key
    · rw [if_pos hk, get?_cons, get?_cons]
      by_cases ho : key = other
      · simp [hk, ho]
      · simp [hk, ho]
    · rw [if_neg hk, get?_cons, get?_cons, ih]
      by_cases ho : key = other
      · have : k ≠ other := fun h => hk (h.trans ho.symm)
        simp [ho, this]
      · simp [ho]

@[simp] theorem get?_set_self (members : Members) (key : String) (value : Document) :
    get? (set members key value) key = some value := by
  rw [get?_set, if_pos rfl]

theorem get?_set_of_ne (members : Members) {key other : String} (value : Document)
    (h : key ≠ other) : get? (set members key value) other = get? members other := by
  rw [get?_set, if_neg h]

/-- Taking members out by their keys leaves the others to be read as before. -/
theorem get?_filter (members : Members) (p : String → Bool) (key : String) :
    get? (members.filter fun entry => p entry.1) key
      = if p key then get? members key else none := by
  induction members with
  | nil => simp
  | cons entry rest ih =>
    obtain ⟨k, v⟩ := entry
    rw [List.filter_cons]
    by_cases hk : k = key
    · subst hk
      by_cases hp : p k
      · simp [hp, get?_cons]
      · simp [hp, ih]
    · by_cases hp : p k
      · simp [hp, get?_cons, hk, ih]
      · simp [hp, get?_cons, hk, ih]

theorem get?_erase (members : Members) (key other : String) :
    get? (erase members key) other = if other = key then none else get? members other := by
  have h := get?_filter members (fun k => decide (k ≠ key)) other
  rw [erase, h]
  by_cases ho : other = key <;> simp [ho]

theorem get?_foldl_erase (gone : List String) (members : Members) (key : String) :
    get? (gone.foldl erase members) key = if key ∈ gone then none else get? members key := by
  induction gone generalizing members with
  | nil => simp
  | cons first rest ih =>
    rw [List.foldl_cons, ih, get?_erase]
    by_cases h : key = first <;> simp [h]

/-- Members taken out one key after another are taken out by their keys. -/
theorem foldl_erase (gone : List String) (members : Members) :
    gone.foldl erase members = members.filter fun entry => decide (entry.1 ∉ gone) := by
  induction gone generalizing members with
  | nil => simp
  | cons first rest ih =>
    rw [List.foldl_cons, ih, erase, List.filter_filter]
    congr 1
    funext entry
    by_cases h : entry.1 = first <;> simp [h]

/-- A member that is read is one of the list. -/
theorem mem_of_get? {members : Members} {key : String} {value : Document}
    (h : get? members key = some value) : (key, value) ∈ members := by
  induction members with
  | nil => simp at h
  | cons entry rest ih =>
    obtain ⟨k, v⟩ := entry
    rw [get?_cons] at h
    by_cases hk : k = key
    · rw [if_pos hk, Option.some.injEq] at h
      simp [hk, h]
    · rw [if_neg hk] at h
      exact List.mem_cons_of_mem _ (ih h)

theorem mem_keys_of_get? {members : Members} {key : String} {value : Document}
    (h : get? members key = some value) : key ∈ keys members :=
  List.mem_map_of_mem (mem_of_get? h)

/-- Where each key is written once, every member of the list is read at its key. -/
theorem get?_of_mem {members : Members} (distinct : (keys members).Nodup) {key : String}
    {value : Document} (h : (key, value) ∈ members) : get? members key = some value := by
  induction members with
  | nil => simp at h
  | cons entry rest ih =>
    obtain ⟨k, v⟩ := entry
    rw [keys, List.map_cons, List.nodup_cons] at distinct
    rw [get?_cons]
    rcases List.mem_cons.mp h with heq | hmem
    · simp only [Prod.mk.injEq] at heq
      rw [if_pos heq.1.symm, heq.2]
    · have hk : k ≠ key := by
        rintro rfl
        exact distinct.1 (List.mem_map.mpr ⟨_, hmem, rfl⟩)
      rw [if_neg hk]
      exact ih distinct.2 hmem

theorem has_eq_false_iff (members : Members) (key : String) :
    has members key = false ↔ get? members key = none := by
  unfold has
  cases get? members key <;> simp

/-- A key that is not there goes to the end. -/
theorem set_of_get?_eq_none {members : Members} {key : String} (h : get? members key = none)
    (value : Document) : set members key value = members ++ [(key, value)] := by
  induction members with
  | nil => rfl
  | cons entry rest ih =>
    obtain ⟨k, v⟩ := entry
    rw [get?_cons] at h
    by_cases hk : k = key
    · rw [if_pos hk] at h
      cases h
    · rw [if_neg hk] at h
      rw [set, if_neg hk, ih h, List.cons_append]

/-- A member of what is set stood there before, or is the one that was set. -/
theorem mem_set {members : Members} {key : String} {value : Document} {entry : String × Document}
    (h : entry ∈ set members key value) : entry ∈ members ∨ entry = (key, value) := by
  induction members with
  | nil => exact .inr (List.mem_singleton.mp h)
  | cons first rest ih =>
    obtain ⟨k, v⟩ := first
    rw [set] at h
    by_cases hk : k = key
    · rw [if_pos hk] at h
      rcases List.mem_cons.mp h with rfl | hrest
      · exact .inr (by rw [hk])
      · exact .inl (List.mem_cons_of_mem _ hrest)
    · rw [if_neg hk] at h
      rcases List.mem_cons.mp h with rfl | hrest
      · exact .inl (List.mem_cons_self ..)
      · exact (ih hrest).imp_left (List.mem_cons_of_mem _)

/-- Setting a member to the value that it has changes nothing. -/
theorem set_of_get?_eq_some {members : Members} {key : String} {value : Document}
    (h : get? members key = some value) : set members key value = members := by
  induction members with
  | nil => simp at h
  | cons entry rest ih =>
    obtain ⟨k, v⟩ := entry
    rw [get?_cons] at h
    rw [set]
    by_cases hk : k = key
    · rw [if_pos hk, Option.some.injEq] at h
      rw [if_pos hk, h]
    · rw [if_neg hk] at h
      rw [if_neg hk, ih h]

/-- Where each key is written once, setting a member that is there changes this member only. -/
theorem set_eq_map {members : Members} {key : String} (distinct : (keys members).Nodup)
    (h : key ∈ keys members) (value : Document) :
    set members key value
      = members.map fun entry => if entry.1 = key then (key, value) else entry := by
  induction members with
  | nil => cases h
  | cons entry rest ih =>
    obtain ⟨k, v⟩ := entry
    rw [keys, List.map_cons, List.nodup_cons] at distinct
    rw [set, List.map_cons]
    by_cases hk : k = key
    · subst hk
      have hrest : (rest.map fun entry => if entry.1 = k then (k, value) else entry) = rest := by
        refine (List.map_congr_left fun entry hentry => ?_).trans rest.map_id
        refine if_neg fun heq : entry.1 = k => distinct.1 ?_
        exact List.mem_map.mpr ⟨entry, hentry, heq⟩
      rw [if_pos rfl, if_pos rfl, hrest]
    · have hmem : key ∈ keys rest := (List.mem_cons.mp h).resolve_left (Ne.symm hk)
      rw [if_neg hk, if_neg hk, ih distinct.2 hmem]

/-- Taking out keys of which the one set is one makes the setting unseen. -/
theorem filter_set (members : Members) (p : String → Bool) {key : String} (h : p key = false)
    (value : Document) :
    (set members key value).filter (fun entry => p entry.1)
      = members.filter fun entry => p entry.1 := by
  induction members with
  | nil => simp [set, h]
  | cons entry rest ih =>
    obtain ⟨k, v⟩ := entry
    rw [set]
    by_cases hk : k = key
    · simp [hk, h]
    · rw [if_neg hk, List.filter_cons, List.filter_cons, ih]

/-! ### Members that agree key by key -/

theorem forall₂_trans {α : Type} {R S T : α → α → Prop}
    (hT : ∀ x y z, R x y → S y z → T x z) {xs ys zs : List α} (h : List.Forall₂ R xs ys)
    (h' : List.Forall₂ S ys zs) : List.Forall₂ T xs zs := by
  induction h generalizing zs with
  | nil =>
    cases h'
    exact .nil
  | cons hfirst _ ih =>
    cases h' with
    | cons hfirst' hrest' => exact .cons (hT _ _ _ hfirst hfirst') (ih hrest')

/-- The same keys in the same order, with related values. -/
def Related (R : String → Document → Document → Prop) (before after : Members) : Prop :=
  List.Forall₂ (fun a b => a.1 = b.1 ∧ R a.1 a.2 b.2) before after

namespace Related

variable {R S T : String → Document → Document → Prop} {ms ns os : Members}

theorem refl (hR : ∀ key value, R key value value) (ms : Members) : Related R ms ms :=
  List.forall₂_same.mpr fun entry _ => ⟨rfl, hR entry.1 entry.2⟩

theorem mono (hRS : ∀ key v w, R key v w → S key v w) (h : Related R ms ns) : Related S ms ns :=
  List.Forall₂.imp (fun _ _ hab => ⟨hab.1, hRS _ _ _ hab.2⟩) h

theorem trans (hT : ∀ key u v w, R key u v → S key v w → T key u w) (h : Related R ms ns)
    (h' : Related S ns os) : Related T ms os := by
  refine forall₂_trans ?_ h h'
  rintro ⟨key, u⟩ ⟨key', v⟩ ⟨key'', w⟩ ⟨hkey, huv⟩ ⟨hkey', hvw⟩
  obtain rfl : key = key' := hkey
  exact ⟨hkey', hT key u v w huv hvw⟩

/-- What is read at a key in the one is read in the other, up to the relation. -/
theorem get? (h : Related R ms ns) (key : String) :
    Option.Rel (R key) (Members.get? ms key) (Members.get? ns key) := by
  induction h with
  | nil => exact .none
  | @cons a b _ _ hab _ ih =>
    obtain ⟨k, v⟩ := a
    obtain ⟨k', w⟩ := b
    obtain ⟨rfl, hR⟩ := hab
    rw [get?_cons, get?_cons]
    by_cases hk : k = key
    · subst hk
      rw [if_pos rfl, if_pos rfl]
      exact .some hR
    · rw [if_neg hk, if_neg hk]
      exact ih

theorem get?_some (h : Related R ms ns) {key : String} {v : Document}
    (hv : Members.get? ms key = some v) : ∃ w, Members.get? ns key = some w ∧ R key v w := by
  have hrel := h.get? key
  rw [hv] at hrel
  cases hn : Members.get? ns key with
  | none =>
    rw [hn] at hrel
    cases hrel
  | some w =>
    rw [hn] at hrel
    cases hrel with
    | some hR => exact ⟨w, rfl, hR⟩

/-- Setting a member to a related value relates the members to what comes of it. -/
theorem set {key : String} {v w : Document} (hR : ∀ key value, R key value value)
    (hv : Members.get? ms key = some v) (hvw : R key v w) :
    Related R ms (Members.set ms key w) := by
  induction ms with
  | nil => simp at hv
  | cons entry rest ih =>
    obtain ⟨k, u⟩ := entry
    rw [get?_cons] at hv
    rw [Members.set]
    by_cases hk : k = key
    · rw [if_pos hk, Option.some.injEq] at hv
      subst hk hv
      rw [if_pos rfl]
      exact .cons ⟨rfl, hvw⟩ (refl hR rest)
    · rw [if_neg hk] at hv
      rw [if_neg hk]
      exact .cons ⟨rfl, hR k u⟩ (ih hv)

/-- Members taken out by their keys on both sides. -/
theorem filter (h : Related R ms ns) (p : String → Bool) :
    Related R (ms.filter fun entry => p entry.1) (ns.filter fun entry => p entry.1) := by
  induction h with
  | nil => exact .nil
  | @cons a b _ _ hab _ ih =>
    rw [List.filter_cons, List.filter_cons, ← hab.1]
    by_cases hp : p a.1
    · rw [if_pos hp, if_pos hp]
      exact .cons hab ih
    · rw [if_neg hp, if_neg hp]
      exact ih

end Related

end ApiTools.Members
