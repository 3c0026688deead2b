import ApiTools.Naming
import ApiTools.Proofs.Text.Trimmed
import Mathlib.Tactic.SplitIfs

/-!
# Words joined by underscores

`Joined` is made of nonempty runs of characters of one class, with a single underscore between
neighbours (`joined_iff_exists_runs`).  Seen from outside these are characters of the class and
underscores, with no underscore at either end and no two in a row (`joined_iff`).  So anything that
is made of such characters is joined, or nothing is left of it, once its underscores are merged and
those at its ends are trimmed (`joined_trimUnderscores`); and joined characters stay as they are.
-/

namespace ApiTools

namespace Naming

open Text

variable {p q : Char → Bool} {c : Char} {cs : List Char}

/-! ### Joined characters -/

/-- Runs of characters of a class, with one underscore between neighbours. -/
inductive Joined (p : Char → Bool) : List Char → Prop
  | last {c : Char} (hc : p c = true) : Joined p [c]
  | next {c : Char} {cs : List Char} (hc : p c = true) (h : Joined p cs) : Joined p (c :: cs)
  | underscore {c : Char} {cs : List Char} (hc : p c = true) (h : Joined p cs) :
    Joined p (c :: '_' :: cs)

/-- Characters of a class and underscores, with no underscore at either end and no two in a row. -/
structure IsTidy (p : Char → Bool) (cs : List Char) : Prop where
  chars : ∀ c ∈ cs, p c = true ∨ c = '_'
  head : cs.head? ≠ some '_'
  last : cs.getLast? ≠ some '_'
  pair : ¬ ['_', '_'] <:+: cs

namespace Joined

theorem exists_head (h : Joined p cs) : ∃ c rest, cs = c :: rest ∧ p c = true := by
  cases h with
  | last hc => exact ⟨_, _, rfl, hc⟩
  | next hc _ => exact ⟨_, _, rfl, hc⟩
  | underscore hc _ => exact ⟨_, _, rfl, hc⟩

theorem ne_nil (h : Joined p cs) : cs ≠ [] := by
  obtain ⟨c, rest, rfl, -⟩ := h.exists_head
  exact List.cons_ne_nil c rest

theorem exists_last (h : Joined p cs) : ∃ c, cs.getLast? = some c ∧ p c = true := by
  induction h with
  | @last c hc => exact ⟨c, rfl, hc⟩
  | next _ h ih =>
    obtain ⟨d, rest, rfl, -⟩ := h.exists_head
    rwa [List.getLast?_cons_cons]
  | underscore _ h ih =>
    obtain ⟨d, rest, rfl, -⟩ := h.exists_head
    rwa [List.getLast?_cons_cons, List.getLast?_cons_cons]

theorem mem (h : Joined p cs) (hc : c ∈ cs) : p c = true ∨ c = '_' := by
  induction h with
  | last hp => exact .inl (List.mem_singleton.mp hc ▸ hp)
  | next hp _ ih =>
    rcases List.mem_cons.mp hc with rfl | hc
    · exact .inl hp
    · exact ih hc
  | underscore hp _ ih =>
    rcases List.mem_cons.mp hc with rfl | hc
    · exact .inl hp
    · rcases List.mem_cons.mp hc with rfl | hc
      · exact .inr rfl
      · exact ih hc

theorem ne_underscore (hp : p '_' = false) (hc : p c = true) : c ≠ '_' := by
  rintro rfl
  rw [hp] at hc
  cases hc

/-- After an underscore a run follows. -/
theorem no_pair (hp : p '_' = false) (h : Joined p cs) : ¬ ['_', '_'] <:+: cs := by
  have hnext : ∀ {d : Char} {cs : List Char}, d ≠ '_' → ¬ ['_', '_'] <:+: cs →
      ¬ ['_', '_'] <:+: d :: cs := by
    intro d cs hd hcs hwithin
    rcases List.infix_cons_iff.mp hwithin with hfront | hwithin
    · exact hd (List.cons_prefix_cons.mp hfront).1.symm
    · exact hcs hwithin
  induction h with
  | last hc => exact hnext (ne_underscore hp hc) (by simp)
  | next hc _ ih => exact hnext (ne_underscore hp hc) ih
  | underscore hc h ih =>
    refine hnext (ne_underscore hp hc) fun hwithin => ?_
    obtain ⟨d, rest, rfl, hd⟩ := h.exists_head
    rcases List.infix_cons_iff.mp hwithin with hfront | hwithin
    · have hsecond := (List.cons_prefix_cons.mp hfront).2
      exact ne_underscore hp hd (List.cons_prefix_cons.mp hsecond).1.symm
    · exact ih hwithin

theorem isTidy (hp : p '_' = false) (h : Joined p cs) : IsTidy p cs := by
  refine ⟨fun c hc => h.mem hc, ?_, ?_, h.no_pair hp⟩
  · obtain ⟨c, rest, rfl, hc⟩ := h.exists_head
    exact fun heq => ne_underscore hp hc (Option.some.inj heq)
  · obtain ⟨c, hlast, hc⟩ := h.exists_last
    rw [hlast]
    exact fun heq => ne_underscore hp hc (Option.some.inj heq)

/-- A map that keeps underscores takes runs to runs. -/
theorem map {f : Char → Char} (hf : ∀ c, p c = true → q (f c) = true) (hunderscore : f '_' = '_')
    (h : Joined p cs) : Joined q (cs.map f) := by
  induction h with
  | last hc => exact .last (hf _ hc)
  | next hc _ ih => exact .next (hf _ hc) ih
  | underscore hc _ ih =>
    rw [List.map_cons, List.map_cons, hunderscore]
    exact .underscore (hf _ hc) ih

end Joined

theorem IsTidy.joined : {cs : List Char} → IsTidy p cs → cs ≠ [] → Joined p cs
  | [], _, hne => absurd rfl hne
  | [c], h, _ =>
    .last ((h.chars c (List.mem_singleton_self c)).resolve_right fun hc => h.head (by rw [hc]; rfl))
  | c :: d :: rest, h, _ => by
    have hc : p c = true :=
      (h.chars c (List.mem_cons_self ..)).resolve_right fun hc => h.head (by rw [hc]; rfl)
    have hchars := fun e he => h.chars e (List.mem_cons_of_mem _ he)
    have hlast := h.last
    rw [List.getLast?_cons_cons] at hlast
    have hpair := fun hwithin => h.pair (List.infix_cons_iff.mpr (.inr hwithin))
    by_cases hd : d = '_'
    · -- An underscore is not the last character, and the one after it begins a run.
      subst hd
      have hne : rest ≠ [] := by
        rintro rfl
        exact hlast rfl
      obtain ⟨e, more, rfl⟩ := List.exists_cons_of_ne_nil hne
      refine .underscore hc (IsTidy.joined ⟨?_, ?_, ?_, ?_⟩ hne)
      · exact fun a ha => hchars a (List.mem_cons_of_mem _ ha)
      · rintro heq
        cases Option.some.inj heq
        exact hpair (List.prefix_append ['_', '_'] more).isInfix
      · rwa [List.getLast?_cons_cons] at hlast
      · exact fun hwithin => hpair (List.infix_cons_iff.mpr (.inr hwithin))
    · exact .next hc
        (IsTidy.joined ⟨hchars, fun heq => hd (Option.some.inj heq), hlast, hpair⟩ (by simp))

theorem joined_iff (hp : p '_' = false) : Joined p cs ↔ cs ≠ [] ∧ IsTidy p cs :=
  ⟨fun h => ⟨h.ne_nil, h.isTidy hp⟩, fun h => h.2.joined h.1⟩

/-! ### Runs -/

theorem joined_append {run rest : List Char} (hne : run ≠ []) (hrun : ∀ c ∈ run, p c = true)
    (hrest : rest = [] ∨ ∃ more, rest = '_' :: more ∧ Joined p more) : Joined p (run ++ rest) := by
  induction run with
  | nil => exact absurd rfl hne
  | cons c run ih =>
    rw [List.forall_mem_cons] at hrun
    cases run with
    | nil =>
      rcases hrest with rfl | ⟨more, rfl, hmore⟩
      · exact .last hrun.1
      · exact .underscore hrun.1 hmore
    | cons d run => exact .next hrun.1 (ih (List.cons_ne_nil d run) hrun.2)

/-- One run alone. -/
theorem joined_of_forall (hne : cs ≠ []) (h : ∀ c ∈ cs, p c = true) : Joined p cs := by
  rw [← List.append_nil cs]
  exact joined_append hne h (.inl rfl)

theorem joined_intercalate {runs : List (List Char)} (hne : runs ≠ [])
    (hruns : ∀ run ∈ runs, run ≠ [] ∧ ∀ c ∈ run, p c = true) :
    Joined p (['_'].intercalate runs) := by
  induction runs with
  | nil => exact absurd rfl hne
  | cons run runs ih =>
    rw [List.forall_mem_cons] at hruns
    obtain ⟨⟨hrun, hchars⟩, hruns⟩ := hruns
    cases runs with
    | nil =>
      rw [List.intercalate_singleton]
      exact joined_of_forall hrun hchars
    | cons next runs =>
      rw [List.intercalate_cons_cons, List.append_assoc]
      exact joined_append hrun hchars (.inr ⟨_, rfl, ih (List.cons_ne_nil _ _) hruns⟩)

theorem Joined.exists_runs (h : Joined p cs) : ∃ runs : List (List Char), runs ≠ [] ∧
    (∀ run ∈ runs, run ≠ [] ∧ ∀ c ∈ run, p c = true) ∧ cs = ['_'].intercalate runs := by
  induction h with
  | @last c hc => exact ⟨[[c]], by simp, by simpa using hc, by simp⟩
  | @next c cs hc _ ih =>
    obtain ⟨runs, hne, hruns, rfl⟩ := ih
    obtain ⟨run, runs, rfl⟩ := List.exists_cons_of_ne_nil hne
    rw [List.forall_mem_cons] at hruns
    refine ⟨(c :: run) :: runs, List.cons_ne_nil _ _, ?_, ?_⟩
    · exact List.forall_mem_cons.mpr
        ⟨⟨List.cons_ne_nil c run, List.forall_mem_cons.mpr ⟨hc, hruns.1.2⟩⟩, hruns.2⟩
    · cases runs <;> simp
  | @underscore c cs hc _ ih =>
    obtain ⟨runs, hne, hruns, rfl⟩ := ih
    obtain ⟨run, runs, rfl⟩ := List.exists_cons_of_ne_nil hne
    refine ⟨[c] :: run :: runs, List.cons_ne_nil _ _, ?_, by simp⟩
    exact List.forall_mem_cons.mpr ⟨by simpa using hc, hruns⟩

theorem joined_iff_exists_runs : Joined p cs ↔ ∃ runs : List (List Char), runs ≠ [] ∧
    (∀ run ∈ runs, run ≠ [] ∧ ∀ c ∈ run, p c = true) ∧ cs = ['_'].intercalate runs := by
  refine ⟨Joined.exists_runs, ?_⟩
  rintro ⟨runs, hne, hruns, rfl⟩
  exact joined_intercalate hne hruns

/-! ### Merged underscores -/

theorem head?_mergeUnderscores (c : Char) (rest : List Char) :
    (mergeUnderscores (c :: rest)).head? = some c := by
  induction rest generalizing c with
  | nil => rfl
  | cons d rest ih =>
    rw [mergeUnderscores]
    split_ifs with hpair
    · simp only [Bool.and_eq_true, decide_eq_true_eq] at hpair
      rw [ih d, hpair.1, hpair.2]
    · rfl

theorem no_pair_mergeUnderscores (cs : List Char) : ¬ ['_', '_'] <:+: mergeUnderscores cs := by
  fun_induction mergeUnderscores cs with
  | case1 => simp
  | case2 c => simp [List.infix_cons_iff]
  | case3 c d rest _ ih => exact ih
  | case4 c d rest hpair ih =>
    intro hwithin
    rcases List.infix_cons_iff.mp hwithin with hfront | hwithin
    · obtain ⟨hc, hnext⟩ := List.cons_prefix_cons.mp hfront
      obtain ⟨more, hmore⟩ := hnext
      have hd := head?_mergeUnderscores d rest
      rw [← hmore] at hd
      simp only [Bool.and_eq_true, decide_eq_true_eq] at hpair
      exact hpair ⟨hc.symm, (Option.some.inj hd).symm⟩
    · exact ih hwithin

theorem mergeUnderscores_of_no_pair (h : ¬ ['_', '_'] <:+: cs) : mergeUnderscores cs = cs := by
  fun_induction mergeUnderscores cs with
  | case1 => rfl
  | case2 c => rfl
  | case3 c d rest hpair ih =>
    simp only [Bool.and_eq_true, decide_eq_true_eq] at hpair
    rw [hpair.1, hpair.2] at h
    exact absurd (List.prefix_append ['_', '_'] rest).isInfix h
  | case4 c d rest _ ih => rw [ih fun hwithin => h (List.infix_cons_iff.mpr (.inr hwithin))]

theorem Joined.mergeUnderscores_eq (hp : p '_' = false) (h : Joined p cs) :
    mergeUnderscores cs = cs :=
  mergeUnderscores_of_no_pair (h.no_pair hp)

theorem filter_mergeUnderscores (hp : p '_' = false) (cs : List Char) :
    (mergeUnderscores cs).filter p = cs.filter p := by
  fun_induction mergeUnderscores cs with
  | case1 => rfl
  | case2 => rfl
  | case3 c d rest hpair ih =>
    simp only [Bool.and_eq_true, decide_eq_true_eq] at hpair
    rw [ih, hpair.1]
    exact (List.filter_cons_of_neg (by simp [hp])).symm
  | case4 c d rest _ ih => rw [List.filter_cons, ih, ← List.filter_cons]

/-! ### Trimmed underscores -/

theorem filter_trimUnderscores (hp : p '_' = false) (cs : List Char) :
    (trimUnderscores cs).filter p = cs.filter p := by
  refine filter_trimBy (fun c hc => ?_) cs
  rw [eq_of_beq hc, hp]

theorem isTidy_trimUnderscores (hchars : ∀ c ∈ cs, p c = true ∨ c = '_')
    (hpair : ¬ ['_', '_'] <:+: cs) : IsTidy p (trimUnderscores cs) := by
  refine ⟨fun c hc => hchars c (mem_of_mem_trimBy hc), ?_, ?_, ?_⟩
  · intro hhead
    obtain ⟨rest, hcons⟩ := List.head?_eq_some_iff.mp hhead
    exact absurd (head_trimBy hcons) (by decide)
  · exact fun hlast => absurd (getLast_trimBy hlast) (by decide)
  · exact fun hwithin => hpair (hwithin.trans (trimBy_isInfix _ cs))

/-- Of characters without two underscores in a row nothing is left when those at the ends are
trimmed, or they are joined. -/
theorem joined_trimUnderscores (hchars : ∀ c ∈ cs, p c = true ∨ c = '_')
    (hpair : ¬ ['_', '_'] <:+: cs) : trimUnderscores cs = [] ∨ Joined p (trimUnderscores cs) :=
  or_iff_not_imp_left.mpr (isTidy_trimUnderscores hchars hpair).joined

theorem Joined.trimUnderscores_eq (hp : p '_' = false) (h : Joined p cs) :
    trimUnderscores cs = cs := by
  have htidy := h.isTidy hp
  refine trimBy_eq_self ?_ ?_
  · intro c hc
    rw [beq_eq_false_iff_ne]
    rintro rfl
    exact htidy.head hc
  · intro c hc
    rw [beq_eq_false_iff_ne]
    rintro rfl
    exact htidy.last hc

end Naming

end ApiTools
