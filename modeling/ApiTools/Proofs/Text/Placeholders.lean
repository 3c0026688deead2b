import ApiTools.Naming
import ApiTools.Text.Cut
import Mathlib.Data.List.Infix
import Mathlib.Data.List.TakeWhile
import Mathlib.Tactic.SplitIfs

/-!
# Placeholders replaced one after the other and all at once

A placeholder is a name in braces.  `ReplacedAtOnce` says that a text comes of another one by
replacing what a table names, read once from the left.  Replacing the placeholder of one name by
that of another renames the placeholders of the text (`replaceFrom_braced`), and to rename twice is
to rename by the composition (`renamePlaceholders_renamePlaceholders`), so that replacing for one
name after the other carries each placeholder of the text on from name to name
(`foldl_replaceFrom_braced`).  It is a replacement at once exactly where no placeholder of the text
is carried on further than one name (`replacedAtOnce_foldl_iff`).
-/

namespace ApiTools.Text

open Naming (isBrace)

variable {c : Char} {cs rest after name plain : List Char} {f g : List Char → List Char}

/-- The text after is the text before with the new characters for the old ones of each entry of the
table, read once from the left: what was replaced is not looked at again, and every other character
is kept. -/
inductive ReplacedAtOnce (table : List (List Char × List Char)) : List Char → List Char → Prop
  | nil : ReplacedAtOnce table [] []
  | entry {old new before after : List Char} (h : (old, new) ∈ table)
      (hrest : ReplacedAtOnce table before after) :
    ReplacedAtOnce table (old ++ before) (new ++ after)
  | char {c : Char} {before after : List Char} (h : ∀ entry ∈ table, ¬ entry.1 <+: c :: before)
      (hrest : ReplacedAtOnce table before after) : ReplacedAtOnce table (c :: before) (c :: after)

/-- The name in braces. -/
def braced (name : List Char) : List Char := '\x7b' :: (name ++ ['\x7d'])

/-- Is there no brace among the characters? -/
def IsBraceless (cs : List Char) : Prop := ∀ c ∈ cs, isBrace c = false

instance (cs : List Char) : Decidable (IsBraceless cs) :=
  List.decidableBAll (isBrace · = false) cs

theorem braced_append (name rest : List Char) :
    braced name ++ rest = '\x7b' :: (name ++ '\x7d' :: rest) := by
  simp [braced]

theorem IsBraceless.ne_open (h : IsBraceless cs) (hc : c ∈ cs) : c ≠ '\x7b' := by
  rintro rfl
  cases h _ hc

theorem IsBraceless.append_close_ne_open (h : IsBraceless name) :
    ∀ c ∈ name ++ ['\x7d'], c ≠ '\x7b' := by
  rw [List.forall_mem_append, List.forall_mem_singleton]
  exact ⟨fun c hc => h.ne_open hc, by decide⟩

theorem isBraceless_takeWhile (cs : List Char) : IsBraceless (cs.takeWhile (!isBrace ·)) := by
  intro c hc
  simpa using List.mem_takeWhile_imp hc

/-- A name without braces is what stands before the first brace. -/
theorem takeWhile_append_close (h : IsBraceless name) (rest : List Char) :
    (name ++ '\x7d' :: rest).takeWhile (!isBrace ·) = name := by
  have hname : ∀ c ∈ name, (!isBrace c) = true := fun c hc => by simp [h c hc]
  rw [List.takeWhile_append_of_pos hname, List.takeWhile_cons_of_neg (by decide), List.append_nil]

theorem dropWhile_append_close (h : IsBraceless name) (rest : List Char) :
    (name ++ '\x7d' :: rest).dropWhile (!isBrace ·) = '\x7d' :: rest := by
  have hname : ∀ c ∈ name, (!isBrace c) = true := fun c hc => by simp [h c hc]
  rw [List.dropWhile_append_of_pos hname, List.dropWhile_cons_of_neg (by decide)]

theorem append_close_inj {other : List Char} (h : IsBraceless name) (h' : IsBraceless other) :
    name ++ '\x7d' :: rest = other ++ '\x7d' :: after ↔ name = other ∧ rest = after := by
  constructor
  · intro heq
    have hname := congrArg (List.takeWhile (!isBrace ·)) heq
    rw [takeWhile_append_close h, takeWhile_append_close h'] at hname
    subst hname
    exact ⟨rfl, by simpa using heq⟩
  · rintro ⟨rfl, rfl⟩
    rfl

/-- Of two names without braces only the same one begins a text at the same place. -/
theorem braced_prefix_iff {other : List Char} (h : IsBraceless name) (h' : IsBraceless other) :
    braced name <+: '\x7b' :: (other ++ '\x7d' :: rest) ↔ name = other := by
  constructor
  · rintro ⟨more, hmore⟩
    rw [braced_append, List.cons.injEq] at hmore
    exact ((append_close_inj h h').mp hmore.2).1
  · rintro rfl
    exact ⟨rest, braced_append ..⟩

/-! ### The placeholders of a text -/

/-- A text is read from the left as placeholders and characters at which none begins. -/
inductive Pieces : List Char → Prop
  | nil : Pieces []
  | placeholder {name rest : List Char} (hname : IsBraceless name) (hrest : Pieces rest) :
    Pieces ('\x7b' :: (name ++ '\x7d' :: rest))
  | char {c : Char} {rest : List Char} (h : ∀ name, IsBraceless name → ¬ braced name <+: c :: rest)
      (hrest : Pieces rest) : Pieces (c :: rest)

theorem pieces (cs : List Char) : Pieces cs := by
  induction hlength : cs.length using Nat.strongRecOn generalizing cs with
  | ind length ih =>
    cases cs with
    | nil => exact .nil
    | cons c rest =>
      by_cases hfound : ∃ name, IsBraceless name ∧ braced name <+: c :: rest
      · obtain ⟨name, hname, after, hafter⟩ := hfound
        rw [braced_append] at hafter
        rw [← hafter] at hlength ⊢
        refine .placeholder hname (ih after.length ?_ after rfl)
        simp at hlength
        omega
      · simp only [not_exists, not_and] at hfound
        exact .char hfound (ih rest.length (by simp at hlength; omega) rest rfl)

/-- A placeholder that occurs after characters none of which opens one occurs in the rest. -/
theorem braced_infix_append_iff (hplain : ∀ c ∈ plain, c ≠ '\x7b') :
    braced name <:+: plain ++ rest ↔ braced name <:+: rest := by
  induction plain with
  | nil => rfl
  | cons c plain ih =>
    rw [List.forall_mem_cons] at hplain
    rw [List.cons_append, List.infix_cons_iff, ih hplain.2, or_iff_right_iff_imp]
    intro hprefix
    exact absurd (List.cons_prefix_cons.mp hprefix).1.symm hplain.1

/-- A placeholder occurs as the first piece or after it. -/
theorem braced_infix_placeholder_iff {other : List Char} (h : IsBraceless name)
    (h' : IsBraceless other) :
    braced name <:+: '\x7b' :: (other ++ '\x7d' :: rest) ↔ name = other ∨ braced name <:+: rest := by
  rw [List.infix_cons_iff, braced_prefix_iff h h', List.append_cons,
    braced_infix_append_iff h'.append_close_ne_open]

/-! ### Renaming placeholders -/

/-- The characters after an opening brace, with the name that a closing brace ends renamed. -/
def renameOpened (f : List Char → List Char) (cs : List Char) : List Char :=
  match cs.dropWhile (!isBrace ·) with
  | '\x7d' :: rest => f (cs.takeWhile (!isBrace ·)) ++ '\x7d' :: rest
  | _ => cs

/-- The characters with the name of each placeholder renamed. -/
def renamePlaceholders (f : List Char → List Char) : List Char → List Char
  | [] => []
  | c :: rest =>
    c :: if c = '\x7b' then renameOpened f (renamePlaceholders f rest)
      else renamePlaceholders f rest

theorem renameOpened_append_close (h : IsBraceless name) (rest : List Char) :
    renameOpened f (name ++ '\x7d' :: rest) = f name ++ '\x7d' :: rest := by
  unfold renameOpened
  rw [dropWhile_append_close h, takeWhile_append_close h]
  rfl

theorem renamePlaceholders_append (hplain : ∀ c ∈ plain, c ≠ '\x7b') (rest : List Char) :
    renamePlaceholders f (plain ++ rest) = plain ++ renamePlaceholders f rest := by
  induction plain with
  | nil => rfl
  | cons c plain ih =>
    rw [List.forall_mem_cons] at hplain
    rw [List.cons_append, renamePlaceholders, if_neg hplain.1, ih hplain.2, List.cons_append]

theorem renamePlaceholders_placeholder (h : IsBraceless name) (rest : List Char) :
    renamePlaceholders f ('\x7b' :: (name ++ '\x7d' :: rest))
      = '\x7b' :: (f name ++ '\x7d' :: renamePlaceholders f rest) := by
  have hclose : renamePlaceholders f ('\x7d' :: rest) = '\x7d' :: renamePlaceholders f rest := by
    rw [renamePlaceholders, if_neg (by decide)]
  rw [renamePlaceholders, if_pos rfl, renamePlaceholders_append (fun c hc => h.ne_open hc), hclose,
    renameOpened_append_close h]

/-- Characters that do not open a placeholder begin the renamed text where they begin the text. -/
theorem prefix_renamePlaceholders_iff (hplain : ∀ c ∈ plain, c ≠ '\x7b') :
    plain <+: renamePlaceholders f cs ↔ plain <+: cs := by
  induction plain generalizing cs with
  | nil => simp
  | cons p plain ih =>
    rw [List.forall_mem_cons] at hplain
    cases cs with
    | nil => rfl
    | cons c rest =>
      rw [renamePlaceholders, List.cons_prefix_cons, List.cons_prefix_cons]
      refine and_congr_right ?_
      rintro rfl
      rw [if_neg hplain.1]
      exact ih hplain.2

/-- A placeholder begins at a character before the renamed rest where it begins before the rest. -/
theorem braced_prefix_renamePlaceholders_iff (h : IsBraceless name) :
    braced name <+: c :: renamePlaceholders f rest ↔ braced name <+: c :: rest := by
  unfold braced
  rw [List.cons_prefix_cons, List.cons_prefix_cons, prefix_renamePlaceholders_iff h.append_close_ne_open]

/-- A character is kept where the placeholder that begins there, if any, keeps its name. -/
theorem renamePlaceholders_cons
    (h : ∀ name, IsBraceless name → braced name <+: c :: rest → f name = name) :
    renamePlaceholders f (c :: rest) = c :: renamePlaceholders f rest := by
  rw [renamePlaceholders]
  split_ifs with hc
  · congr 1
    unfold renameOpened
    split
    · next after hafter =>
      have hname := isBraceless_takeWhile (renamePlaceholders f rest)
      have hwhole := List.takeWhile_append_dropWhile
        (p := (!isBrace ·)) (l := renamePlaceholders f rest)
      rw [hafter] at hwhole
      have hprefix : braced ((renamePlaceholders f rest).takeWhile (!isBrace ·)) <+: c :: rest := by
        rw [← braced_prefix_renamePlaceholders_iff (f := f) hname]
        refine ⟨after, ?_⟩
        rw [braced_append, hwhole, hc]
      rw [h _ hname hprefix, hwhole]
    · rfl
  · rfl

theorem renamePlaceholders_id (cs : List Char) : renamePlaceholders (fun name => name) cs = cs := by
  induction cs with
  | nil => rfl
  | cons c rest ih => rw [renamePlaceholders_cons fun _ _ _ => rfl, ih]

/-- Renaming twice is renaming by the composition. -/
theorem renamePlaceholders_renamePlaceholders (hf : ∀ name, IsBraceless name → IsBraceless (f name))
    (cs : List Char) : renamePlaceholders g (renamePlaceholders f cs)
      = renamePlaceholders (fun name => g (f name)) cs := by
  induction pieces cs with
  | nil => rfl
  | @placeholder name rest hname _ ih =>
    rw [renamePlaceholders_placeholder hname, renamePlaceholders_placeholder (hf name hname),
      renamePlaceholders_placeholder hname, ih]
  | @char c rest h _ ih =>
    have hafter : ∀ name, IsBraceless name → ¬ braced name <+: c :: renamePlaceholders f rest :=
      fun name hname => by
        rw [braced_prefix_renamePlaceholders_iff hname]
        exact h name hname
    rw [renamePlaceholders_cons fun name hname hbegin => absurd hbegin (h name hname),
      renamePlaceholders_cons fun name hname hbegin => absurd hbegin (hafter name hname),
      renamePlaceholders_cons fun name hname hbegin => absurd hbegin (h name hname), ih]

/-- Two renamings of a text are the same where they agree on the placeholders in it. -/
theorem renamePlaceholders_eq_iff (hf : ∀ name, IsBraceless name → IsBraceless (f name))
    (hg : ∀ name, IsBraceless name → IsBraceless (g name)) (cs : List Char) :
    renamePlaceholders f cs = renamePlaceholders g cs ↔
      ∀ name, IsBraceless name → braced name <:+: cs → f name = g name := by
  induction pieces cs with
  | nil => simp [renamePlaceholders, braced]
  | @placeholder name rest hname _ ih =>
    rw [renamePlaceholders_placeholder hname, renamePlaceholders_placeholder hname,
      List.cons.injEq, eq_self, true_and, append_close_inj (hf name hname) (hg name hname), ih]
    constructor
    · rintro ⟨hfirst, hrest⟩ other hother hoccurs
      rcases (braced_infix_placeholder_iff hother hname).mp hoccurs with rfl | hoccurs
      · exact hfirst
      · exact hrest other hother hoccurs
    · intro h
      refine ⟨h name hname ?_, fun other hother hoccurs => h other hother ?_⟩
      · exact (braced_infix_placeholder_iff hname hname).mpr (.inl rfl)
      · exact (braced_infix_placeholder_iff hother hname).mpr (.inr hoccurs)
  | @char c rest h _ ih =>
    rw [renamePlaceholders_cons fun name hname hbegin => absurd hbegin (h name hname),
      renamePlaceholders_cons fun name hname hbegin => absurd hbegin (h name hname),
      List.cons.injEq, eq_self, true_and, ih]
    refine forall_congr' fun name => forall_congr' fun hname => ?_
    rw [List.infix_cons_iff, or_iff_right (h name hname)]

/-! ### Replacing one placeholder -/

theorem replaceFrom_skip (old new taken rest : List Char) :
    replaceFrom old new taken.length (taken ++ rest) = replaceFrom old new 0 rest := by
  induction taken with
  | nil => rfl
  | cons c taken ih => exact ih

theorem replaceFrom_of_matched {old new : List Char} (hne : old ≠ []) (rest : List Char) :
    replaceFrom old new 0 (old ++ rest) = new ++ replaceFrom old new 0 rest := by
  obtain ⟨c, taken, rfl⟩ := List.exists_cons_of_ne_nil hne
  rw [List.cons_append, replaceFrom, if_pos, List.length_cons, Nat.add_sub_cancel, replaceFrom_skip]
  simp

theorem replaceFrom_of_unmatched {old new : List Char} (h : ¬ old <+: c :: rest) :
    replaceFrom old new 0 (c :: rest) = c :: replaceFrom old new 0 rest := by
  rw [replaceFrom, if_neg (by simpa using h)]

theorem replaceFrom_braced_append {new : List Char} (hplain : ∀ c ∈ plain, c ≠ '\x7b')
    (rest : List Char) : replaceFrom (braced name) new 0 (plain ++ rest)
      = plain ++ replaceFrom (braced name) new 0 rest := by
  induction plain with
  | nil => rfl
  | cons c plain ih =>
    rw [List.forall_mem_cons] at hplain
    have hnot : ¬ braced name <+: c :: (plain ++ rest) := fun hprefix =>
      hplain.1 (List.cons_prefix_cons.mp hprefix).1.symm
    rw [List.cons_append, replaceFrom_of_unmatched hnot, ih hplain.2, List.cons_append]

/-- Replacing the placeholder of a name by that of another renames the name. -/
theorem replaceFrom_braced (h : IsBraceless name) (new cs : List Char) :
    replaceFrom (braced name) (braced new) 0 cs
      = renamePlaceholders (fun other => if other = name then new else other) cs := by
  induction pieces cs with
  | nil => rfl
  | @placeholder other rest hother _ ih =>
    rw [renamePlaceholders_placeholder hother, ← ih]
    split_ifs with heq
    · rw [heq, ← braced_append, replaceFrom_of_matched (by simp [braced]), braced_append]
    · have hnot : ¬ braced name <+: '\x7b' :: (other ++ '\x7d' :: rest) := by
        rw [braced_prefix_iff h hother]
        exact fun hsame => heq hsame.symm
      rw [replaceFrom_of_unmatched hnot, List.append_cons,
        replaceFrom_braced_append hother.append_close_ne_open, ← List.append_cons]
  | @char c rest hchar _ ih =>
    rw [replaceFrom_of_unmatched (hchar name h), ih,
      renamePlaceholders_cons fun other hother hbegin => absurd hbegin (hchar other hother)]

/-! ### Replacing for several names at once -/

section Names

variable {names : List (List Char)}

/-- The placeholder of each name, with that of the renamed one. -/
def bracedTable (f : List Char → List Char) (names : List (List Char)) :
    List (List Char × List Char) :=
  names.map fun name => (braced name, braced (f name))

theorem mem_bracedTable {old new : List Char} : (old, new) ∈ bracedTable f names ↔
    ∃ name ∈ names, old = braced name ∧ new = braced (f name) := by
  unfold bracedTable
  simp only [List.mem_map, Prod.mk.injEq, eq_comm]

theorem replacedAtOnce_append {table : List (List Char × List Char)}
    (hplain : ∀ c ∈ plain, c ≠ '\x7b') (htable : ∀ entry ∈ table, ∃ rest, entry.1 = '\x7b' :: rest)
    (h : ReplacedAtOnce table rest after) :
    ReplacedAtOnce table (plain ++ rest) (plain ++ after) := by
  induction plain with
  | nil => exact h
  | cons c plain ih =>
    rw [List.forall_mem_cons] at hplain
    refine .char ?_ (ih hplain.2)
    intro entry hentry hprefix
    obtain ⟨more, hmore⟩ := htable entry hentry
    rw [hmore] at hprefix
    exact hplain.1 (List.cons_prefix_cons.mp hprefix).1.symm

/-- Replacing the placeholders of names at once renames these names, and no others. -/
theorem replacedAtOnce_iff (hnames : ∀ name ∈ names, IsBraceless name) :
    ReplacedAtOnce (bracedTable f names) cs after ↔
      after = renamePlaceholders (fun name => if name ∈ names then f name else name) cs := by
  constructor
  · intro h
    induction h with
    | nil => rfl
    | @entry old new before after hentry _ ih =>
      obtain ⟨name, hname, rfl, rfl⟩ := mem_bracedTable.mp hentry
      rw [braced_append, braced_append, renamePlaceholders_placeholder (hnames name hname),
        if_pos hname, ih]
    | @char c before after hchar _ ih =>
      rw [renamePlaceholders_cons, ih]
      intro name _ hbegin
      refine if_neg fun hname => ?_
      exact hchar _ (mem_bracedTable.mpr ⟨name, hname, rfl, rfl⟩) hbegin
  · rintro rfl
    have hopened : ∀ entry ∈ bracedTable f names, ∃ rest, entry.1 = '\x7b' :: rest := by
      rintro ⟨old, new⟩ hentry
      obtain ⟨name, -, rfl, -⟩ := mem_bracedTable.mp hentry
      exact ⟨_, rfl⟩
    induction pieces cs with
    | nil => exact .nil
    | @placeholder name rest hname _ ih =>
      rw [renamePlaceholders_placeholder hname]
      split_ifs with hmem
      · have hentry := ReplacedAtOnce.entry (mem_bracedTable.mpr ⟨name, hmem, rfl, rfl⟩) ih
        rwa [braced_append, braced_append] at hentry
      · -- the placeholder of another name is kept character by character
        have hrest := replacedAtOnce_append hname.append_close_ne_open hopened ih
        rw [← List.append_cons, ← List.append_cons] at hrest
        refine .char ?_ hrest
        rintro ⟨old, new⟩ hentry hbegin
        obtain ⟨other, hother, rfl, -⟩ := mem_bracedTable.mp hentry
        rw [braced_prefix_iff (hnames other hother) hname] at hbegin
        exact hmem (hbegin ▸ hother)
    | @char c rest hchar _ ih =>
      rw [renamePlaceholders_cons fun name hname hbegin => absurd hbegin (hchar name hname)]
      refine .char ?_ ih
      rintro ⟨old, new⟩ hentry
      obtain ⟨name, hname, rfl, -⟩ := mem_bracedTable.mp hentry
      exact hchar name (hnames name hname)

/-! ### Replacing for one name after the other -/

/-- The name that a placeholder has in the end, where the placeholder of each of the names is
replaced in turn. -/
def carriedOn (f : List Char → List Char) (names : List (List Char)) (name : List Char) :
    List Char :=
  names.foldl (fun name next => if name = next then f next else name) name

theorem carriedOn_cons (next : List Char) (names : List (List Char)) (name : List Char) :
    carriedOn f (next :: names) name = carriedOn f names (if name = next then f next else name) :=
  rfl

theorem isBraceless_carriedOn (hf : ∀ name, IsBraceless (f name)) (h : IsBraceless name) :
    IsBraceless (carriedOn f names name) := by
  induction names generalizing name with
  | nil => exact h
  | cons next names ih =>
    rw [carriedOn_cons]
    apply ih
    split_ifs
    · exact hf next
    · exact h

/-- Replacing for one name after the other renames each placeholder of the text on its own. -/
theorem foldl_replaceFrom_braced (hf : ∀ name, IsBraceless (f name))
    (hnames : ∀ name ∈ names, IsBraceless name) (cs : List Char) :
    names.foldl (fun cs name => replaceFrom (braced name) (braced (f name)) 0 cs) cs
      = renamePlaceholders (carriedOn f names) cs := by
  induction names generalizing cs with
  | nil => exact (renamePlaceholders_id cs).symm
  | cons next names ih =>
    rw [List.forall_mem_cons] at hnames
    have hstep : ∀ name, IsBraceless name → IsBraceless (if name = next then f next else name) := by
      intro name hname
      split_ifs
      · exact hf next
      · exact hname
    rw [List.foldl_cons, ih hnames.2, replaceFrom_braced hnames.1,
      renamePlaceholders_renamePlaceholders hstep]
    rfl

section Longer

variable (hlonger : ∀ name, name.length < (f name).length)
include hlonger

theorem length_le_carriedOn (names : List (List Char)) (name : List Char) :
    name.length ≤ (carriedOn f names name).length := by
  induction names generalizing name with
  | nil => exact le_refl _
  | cons next names ih =>
    rw [carriedOn_cons]
    refine le_trans ?_ (ih _)
    split_ifs with h
    · rw [h]
      exact (hlonger next).le
    · exact le_refl _

/-- A placeholder keeps its name where this is none of the names: a name never comes back. -/
theorem carriedOn_eq_self_iff (names : List (List Char)) (name : List Char) :
    carriedOn f names name = name ↔ name ∉ names := by
  induction names with
  | nil => simp [carriedOn]
  | cons next names ih =>
    rw [carriedOn_cons, List.mem_cons, not_or]
    split_ifs with h
    · have hlength := length_le_carriedOn hlonger names (f next)
      have hnext := hlonger next
      simp only [h, not_true_eq_false, false_and, iff_false]
      intro heq
      rw [heq] at hlength
      omega
    · rw [ih]
      simp [h]

/-- A placeholder is carried on by one name at most where the new name is not among those that
follow. -/
theorem carriedOn_eq_iff (names : List (List Char)) (name : List Char) :
    carriedOn f names name = (if name ∈ names then f name else name) ↔
      names.Pairwise fun earlier later => earlier = name → later ≠ f name := by
  induction names with
  | nil => simp [carriedOn]
  | cons next names ih =>
    rw [carriedOn_cons, List.pairwise_cons]
    by_cases h : name = next
    · subst h
      rw [if_pos rfl, if_pos (List.mem_cons_self ..), carriedOn_eq_self_iff hlonger]
      constructor
      · intro hnot
        have hlater : ∀ later ∈ names, later ≠ f name := fun later hlater heq =>
          hnot (heq ▸ hlater)
        refine ⟨fun later hmem _ => hlater later hmem, ?_⟩
        rw [List.pairwise_iff_forall_sublist]
        intro earlier later hsublist _
        exact hlater later (hsublist.subset (by simp))
      · exact fun hall hmem => hall.1 _ hmem rfl rfl
    · rw [if_neg h, ← ih]
      simp [h, Ne.symm h]

/-- Replacing for one name after the other is a replacement at once exactly where no placeholder of
the text is renamed to a name that follows. -/
theorem replacedAtOnce_foldl_iff (hf : ∀ name, IsBraceless (f name))
    (hnames : ∀ name ∈ names, IsBraceless name) (cs : List Char) :
    ReplacedAtOnce (bracedTable f names) cs
        (names.foldl (fun cs name => replaceFrom (braced name) (braced (f name)) 0 cs) cs) ↔
      names.Pairwise fun earlier later => braced earlier <:+: cs → later ≠ f earlier := by
  have hcarried : ∀ name, IsBraceless name → IsBraceless (carriedOn f names name) := by
    intro name hname
    exact isBraceless_carriedOn hf hname
  have honce : ∀ name, IsBraceless name →
      IsBraceless (if name ∈ names then f name else name) := by
    intro name hname
    split_ifs
    · exact hf name
    · exact hname
  rw [replacedAtOnce_iff hnames, foldl_replaceFrom_braced hf hnames,
    renamePlaceholders_eq_iff hcarried honce]
  simp only [carriedOn_eq_iff hlonger, List.pairwise_iff_forall_sublist]
  constructor
  · intro h earlier later hsublist hoccurs
    have hbraceless := hnames earlier (hsublist.subset (List.mem_cons_self ..))
    exact h earlier hbraceless hoccurs hsublist rfl
  · rintro h name - hoccurs earlier later hsublist rfl
    exact h hsublist hoccurs

end Longer

end Names

end ApiTools.Text
