import ApiTools.Prompts
import ApiTools.Proofs.Text.Placeholders

/-!
# Templates and their pieces

A template is made of pieces: texts that stand for themselves, in which each brace is doubled, and
slots, which are names in braces.  The pieces are told apart wherever braces meet at their ends, so
that filling the slots of a template fills its pieces (`fillFrom_append_written`).  The other way
round every text is filled as some pieces are, which are the same whatever is filled in
(`exists_hasPieces`): no text that is put into a slot is looked at for slots again.
-/

namespace ApiTools

open Naming (isBrace)

/-- Is the text the name of a slot?  A closing brace would end the slot, and an opening one at the
beginning would stand for a brace together with the one before it. -/
def IsSlotName (name : String) : Prop := '\x7d' ∉ name.toList ∧ name.toList.head? ≠ some '\x7b'

instance : DecidablePred IsSlotName := fun name =>
  inferInstanceAs (Decidable ('\x7d' ∉ name.toList ∧ name.toList.head? ≠ some '\x7b'))

/-- A piece of a template. -/
inductive TemplatePiece where
  /-- A text that stands for itself. -/
  | literal (text : String)
  /-- The place of the text that is given for a name. -/
  | slot (name : String) (h : IsSlotName name)

namespace TemplatePiece

/-- The characters for the piece in a template. -/
def written : TemplatePiece → List Char
  | literal text => text.toList.flatMap fun c => if isBrace c then [c, c] else [c]
  | slot name _ => Text.braced name.toList

/-- The characters that come of the piece: those of the text, and for a slot those of the first text
that is given for its name, or else the slot itself. -/
def filled (slots : List (String × String)) : TemplatePiece → List Char
  | literal text => text.toList
  | slot name _ =>
    match slots.find? (·.1 = name) with
    | some (_, text) => text.toList
    | none => Text.braced name.toList

end TemplatePiece

open TemplatePiece

variable {slots : List (String × String)} {c : Char} {cs name begun rest : List Char}

/-! ### Reading from the left -/

theorem fillFrom_cons_of_not_isBrace (hc : isBrace c = false) (rest : List Char) :
    fillFrom slots none (c :: rest) = c :: fillFrom slots none rest := by
  have hopen : c ≠ '\x7b' := by
    rintro rfl
    cases hc
  have hclose : c ≠ '\x7d' := by
    rintro rfl
    cases hc
  rw [fillFrom, if_neg hopen]
  · exact fun _ h => absurd h hopen
  · exact fun _ h => absurd h hclose

/-- A doubled brace stands for a brace. -/
theorem fillFrom_doubled (hc : isBrace c = true) (rest : List Char) :
    fillFrom slots none (c :: c :: rest) = c :: fillFrom slots none rest := by
  unfold isBrace at hc
  rw [Bool.or_eq_true, beq_iff_eq, beq_iff_eq] at hc
  rcases hc with rfl | rfl
  · rw [fillFrom]
  · rw [fillFrom]

theorem fillFrom_open (h : cs.head? ≠ some '\x7b') :
    fillFrom slots none ('\x7b' :: cs) = fillFrom slots (some []) cs := by
  rw [fillFrom, if_pos rfl]
  · rintro rest - rfl
    exact h rfl
  · intro rest hclose
    cases hclose

/-- A slot that has been begun ends with the next closing brace. -/
theorem fillFrom_begun (hname : '\x7d' ∉ name) (begun rest : List Char) :
    fillFrom slots (some begun) (name ++ '\x7d' :: rest)
      = slotText slots (begun.reverse ++ name) ++ fillFrom slots none rest := by
  induction name generalizing begun with
  | nil => rw [List.nil_append, fillFrom, if_pos rfl, List.append_nil]
  | cons c name ih =>
    rw [List.mem_cons, not_or] at hname
    rw [List.cons_append, fillFrom, if_neg (Ne.symm hname.1), ih hname.2, List.reverse_cons,
      List.append_assoc, List.singleton_append]

theorem lookup_eq_find? (slots : List (String × String)) (name : String) :
    slots.lookup name = (slots.find? (·.1 = name)).map Prod.snd := by
  induction slots with
  | nil => rfl
  | cons entry slots ih =>
    rw [List.lookup_cons, List.find?_cons, ih]
    by_cases hentry : entry.1 = name
    · rw [hentry, beq_self_eq_true, decide_eq_true rfl]
      rfl
    · rw [beq_eq_false_iff_ne.mpr (Ne.symm hentry), decide_eq_false hentry]

theorem slotText_toList (slots : List (String × String)) {name : String} (h : IsSlotName name) :
    slotText slots name.toList = filled slots (.slot name h) := by
  unfold slotText
  rw [String.ofList_toList, lookup_eq_find?]
  cases hfound : slots.find? (·.1 = name) with
  | none => simp only [filled, hfound]; rfl
  | some entry => simp only [filled, hfound]; rfl

/-! ### Pieces in a template -/

theorem fillFrom_literal (cs rest : List Char) :
    fillFrom slots none ((cs.flatMap fun c => if isBrace c then [c, c] else [c]) ++ rest)
      = cs ++ fillFrom slots none rest := by
  induction cs with
  | nil => rfl
  | cons c cs ih =>
    rw [List.flatMap_cons, List.append_assoc]
    cases hc : isBrace c with
    | true =>
      rw [if_pos rfl, List.cons_append, List.singleton_append, fillFrom_doubled hc, ih]
      rfl
    | false =>
      rw [if_neg Bool.false_ne_true, List.singleton_append, fillFrom_cons_of_not_isBrace hc, ih]
      rfl

/-- A piece is filled whatever follows it. -/
theorem fillFrom_written (piece : TemplatePiece) (rest : List Char) :
    fillFrom slots none (piece.written ++ rest) = piece.filled slots ++ fillFrom slots none rest := by
  cases piece with
  | literal text => exact fillFrom_literal text.toList rest
  | slot name h =>
    -- The brace after the opening one is the one that ends the slot, if it is a brace at all.
    have hhead : (name.toList ++ '\x7d' :: rest).head? ≠ some '\x7b' := by
      cases hname : name.toList with
      | nil => simp
      | cons c cs =>
        rw [List.cons_append, List.head?_cons]
        have hopen := h.2
        rwa [hname, List.head?_cons] at hopen
    rw [written, Text.braced_append, fillFrom_open hhead, fillFrom_begun h.1, List.reverse_nil,
      List.nil_append, slotText_toList slots h]

theorem fillFrom_append_written (pieces : List TemplatePiece) (rest : List Char) :
    fillFrom slots none (pieces.flatMap written ++ rest)
      = pieces.flatMap (filled slots) ++ fillFrom slots none rest := by
  induction pieces with
  | nil => rfl
  | cons piece pieces ih =>
    rw [List.flatMap_cons, List.flatMap_cons, List.append_assoc, fillFrom_written, ih,
      List.append_assoc]

/-! ### Pieces of any text -/

/-- Is the text filled as the pieces are, whatever the texts for the slots? -/
def HasPieces (begun? : Option (List Char)) (cs : List Char) (pieces : List TemplatePiece) : Prop :=
  ∀ slots, fillFrom slots begun? cs = pieces.flatMap (filled slots)

theorem HasPieces.cons {begun? : Option (List Char)} {pieces : List TemplatePiece}
    (h : HasPieces none rest pieces) (piece : TemplatePiece)
    (hpiece : ∀ slots, fillFrom slots begun? cs = piece.filled slots ++ fillFrom slots none rest) :
    HasPieces begun? cs (piece :: pieces) := by
  intro slots
  rw [hpiece, h, List.flatMap_cons]

theorem HasPieces.char {pieces : List TemplatePiece} (h : HasPieces none rest pieces)
    (hchar : ∀ slots, fillFrom slots none cs = c :: fillFrom slots none rest) :
    HasPieces none cs (.literal (String.ofList [c]) :: pieces) := by
  refine h.cons _ fun slots => ?_
  rw [hchar, filled, String.toList_ofList, List.singleton_append]

/-- Is what has been read of a slot, the last character first, the beginning of a name that may go on
with the rest? -/
def BeginsName (begun rest : List Char) : Prop :=
  '\x7d' ∉ begun ∧ (begun.reverse ++ rest).head? ≠ some '\x7b'

theorem BeginsName.nil (h : rest.head? ≠ some '\x7b') : BeginsName [] rest :=
  ⟨List.not_mem_nil, h⟩

theorem BeginsName.cons (h : BeginsName begun (c :: rest)) (hc : c ≠ '\x7d') :
    BeginsName (c :: begun) rest := by
  obtain ⟨hclose, hopen⟩ := h
  refine ⟨List.not_mem_cons_of_ne_of_not_mem hc.symm hclose, ?_⟩
  rwa [List.reverse_cons, List.append_assoc, List.singleton_append]

theorem BeginsName.isSlotName (h : BeginsName begun rest) :
    IsSlotName (String.ofList begun.reverse) := by
  obtain ⟨hclose, hopen⟩ := h
  unfold IsSlotName
  rw [String.toList_ofList, List.mem_reverse]
  refine ⟨hclose, fun hhead => hopen ?_⟩
  rw [List.head?_append, hhead]
  rfl

/-- Every text is filled as some pieces are.  Of a slot that has been begun, what has been read must
be the beginning of a name. -/
theorem exists_hasPieces (begun? : Option (List Char)) (cs : List Char)
    (hbegun : ∀ begun ∈ begun?, BeginsName begun cs) : ∃ pieces, HasPieces begun? cs pieces := by
  have hnone : ∀ {rest : List Char}, ∀ begun ∈ (none : Option (List Char)),
      BeginsName begun rest := by
    intro rest begun hmem
    cases hmem
  have hsome : ∀ {begun rest : List Char}, BeginsName begun rest →
      ∀ read ∈ some begun, BeginsName read rest := by
    rintro begun rest h _ ⟨⟩
    exact h
  fun_induction fillFrom [] begun? cs with
  | case1 => exact ⟨[], fun slots => by rw [fillFrom]; rfl⟩
  | case2 begun =>
    -- A slot that is never closed is a text.
    refine ⟨[.literal (String.ofList ('\x7b' :: begun.reverse))], fun slots => ?_⟩
    rw [fillFrom, List.flatMap_singleton, filled, String.toList_ofList]
  | case3 begun rest ih =>
    obtain ⟨pieces, hpieces⟩ := ih hnone
    have hname := (hbegun begun rfl).isSlotName
    refine ⟨_, hpieces.cons (.slot _ hname) fun slots => ?_⟩
    rw [fillFrom, if_pos rfl, ← slotText_toList slots hname, String.toList_ofList]
  | case4 begun c rest hc ih =>
    obtain ⟨pieces, hpieces⟩ := ih (hsome ((hbegun begun rfl).cons hc))
    refine ⟨pieces, fun slots => ?_⟩
    rw [fillFrom, if_neg hc, hpieces]
  | case5 rest ih =>
    obtain ⟨pieces, hpieces⟩ := ih hnone
    exact ⟨_, hpieces.char fun slots => fillFrom_doubled rfl rest⟩
  | case6 rest ih =>
    obtain ⟨pieces, hpieces⟩ := ih hnone
    exact ⟨_, hpieces.char fun slots => fillFrom_doubled rfl rest⟩
  | case7 rest hdoubled _ ih =>
    have hhead : rest.head? ≠ some '\x7b' := by
      intro hhead
      obtain ⟨more, rfl⟩ := List.head?_eq_some_iff.mp hhead
      exact hdoubled more rfl rfl
    obtain ⟨pieces, hpieces⟩ := ih (hsome (.nil hhead))
    refine ⟨pieces, fun slots => ?_⟩
    rw [fillFrom_open hhead, hpieces]
  | case8 c rest hdoubled hdoubled' hc ih =>
    -- This is a closing brace without a second one, or no brace.
    obtain ⟨pieces, hpieces⟩ := ih hnone
    refine ⟨_, hpieces.char (c := c) fun slots => ?_⟩
    rw [fillFrom, if_neg hc]
    · exact hdoubled
    · exact hdoubled'

/-- The slots of a template are filled piece by piece: the texts between them stay, and for a slot
there comes the first text that is given for its name, or else the slot itself.  And each text is
filled as some pieces are, which do not depend on the texts that are put in. -/
theorem fillSlots_pieces :
    (∀ (pieces : List TemplatePiece) (slots : List (String × String)),
      fillSlots (String.ofList (pieces.flatMap written)) slots
        = String.ofList (pieces.flatMap (filled slots))) ∧
    ∀ template : String, ∃ pieces : List TemplatePiece, ∀ slots : List (String × String),
      fillSlots template slots = String.ofList (pieces.flatMap (filled slots)) := by
  constructor
  · intro pieces slots
    have h : fillFrom slots none (pieces.flatMap written ++ [])
        = pieces.flatMap (filled slots) ++ fillFrom slots none [] :=
      fillFrom_append_written pieces []
    rw [List.append_nil] at h
    rw [fillSlots, String.toList_ofList, h, fillFrom, List.append_nil]
  · intro template
    obtain ⟨pieces, hpieces⟩ := exists_hasPieces none template.toList fun _ h => by cases h
    exact ⟨pieces, fun slots => congrArg String.ofList (hpieces slots)⟩

/-- A slot that comes of a text for another slot is not filled. -/
example : fillSlots "\x7ba\x7d \x7bb\x7d" [("a", "\x7bb\x7d"), ("b", "\x7b\x7b")]
    = "\x7bb\x7d \x7b\x7b" := by decide

end ApiTools
