import ApiTools.Proofs.Overlay.Assisted

/-!
# Descriptions of parameters that are cut

The description of a parameter that a language model gives is cut to the greatest length that the
settings allow.  Three points mark the cut, so a limit below three leaves no room for the mark: a
cut text is then longer than the limit (`length_cutMarked_le_iff`).  `repliesAt` says which place
each reply is for, and `length_description_le_iff` is the limit for the actions of a generated
overlay.
-/

namespace ApiTools

/-! ### Cut texts -/

namespace Text

theorem cutMarked_of_le {s : String} {max : Nat} (h : s.length ≤ max) : cutMarked s max = s := by
  unfold cutMarked
  rw [if_pos (by rwa [String.length_toList])]

theorem toList_cutMarked_of_lt {s : String} {max : Nat} (h : max < s.length) :
    (cutMarked s max).toList = s.toList.take (max - 3) ++ "...".toList := by
  unfold cutMarked
  rw [if_neg (by rw [String.length_toList]; omega), String.toList_ofList]
  rfl

/-- A text is cut by putting the mark after a beginning of it. -/
theorem cutMarked_eq_or_exists_prefix (s : String) (max : Nat) :
    cutMarked s max = s ∨
      ∃ kept, kept <+: s.toList ∧ (cutMarked s max).toList = kept ++ "...".toList := by
  rcases Nat.lt_or_ge max s.length with h | h
  · exact .inr ⟨_, List.take_prefix _ _, toList_cutMarked_of_lt h⟩
  · exact .inl (cutMarked_of_le h)

/-- The limit is kept where it leaves room for the mark, or the text needs no cut. -/
theorem length_cutMarked_le_iff (s : String) (max : Nat) :
    (cutMarked s max).length ≤ max ↔ 3 ≤ max ∨ s.length ≤ max := by
  rcases Nat.lt_or_ge max s.length with h | h
  · have hkept : (s.toList.take (max - 3)).length = max - 3 := by
      rw [List.length_take, String.length_toList]
      omega
    have hlength : (cutMarked s max).length = (max - 3) + 3 := by
      rw [← String.length_toList, toList_cutMarked_of_lt h, List.length_append, hkept]
      rfl
    omega
  · rw [cutMarked_of_le h]
    exact ⟨.inr, fun _ => h⟩

end Text

namespace Overlay

/-! ### Replies and places -/

/-- The replies that the places get, one for each.  A place that no model is asked about gets none,
and the others get the replies in order. -/
def repliesAt : List TextPlace → List (Option Reply) → List (Option Reply)
  | [], _ => []
  | place :: places, replies =>
    if place.slot.isAsked then replies.head?.join :: repliesAt places replies.tail
    else none :: repliesAt places replies

/-- The first place gets a reply, which settles its text, and leaves the others the rest. -/
theorem exists_repliesAt_cons (settings : OverlaySettings) (place : TextPlace)
    (places : List TextPlace) (rule : String) (rules : List String)
    (replies : List (Option Reply)) :
    ∃ reply? rest, repliesAt (place :: places) replies = reply? :: repliesAt places rest ∧
      adoptedTexts settings (place :: places) (rule :: rules) replies
        = adopted settings place.slot rule reply? :: adoptedTexts settings places rules rest := by
  rw [repliesAt, adoptedTexts]
  by_cases hasked : place.slot.isAsked = true
  · rw [if_pos hasked, if_pos hasked]
    exact ⟨_, _, rfl, rfl⟩
  · rw [if_neg hasked, if_neg hasked]
    exact ⟨none, _, rfl, rfl⟩

/-- The text that is set at a place is settled by the reply that this place gets. -/
theorem getElem?_adoptedTexts (settings : OverlaySettings) {places : List TextPlace}
    {rules : List String} (hlength : rules.length = places.length) {replies : List (Option Reply)}
    {n : Nat} {place : TextPlace} (hplace : places[n]? = some place) {reply? : Option Reply}
    (hreply : (repliesAt places replies)[n]? = some reply?) :
    ∃ rule, (adoptedTexts settings places rules replies)[n]?
      = some (adopted settings place.slot rule reply?) := by
  induction places generalizing rules replies n with
  | nil => simp at hplace
  | cons first places ih =>
    obtain ⟨rule, rules, rfl⟩ := List.exists_cons_of_length_eq_add_one hlength
    obtain ⟨first?, rest, hreplies, htexts⟩ :=
      exists_repliesAt_cons settings first places rule rules replies
    rw [hreplies] at hreply
    rw [htexts]
    cases n with
    | zero =>
      obtain rfl : first = place := by simpa using hplace
      obtain rfl : first? = reply? := by simpa using hreply
      exact ⟨rule, rfl⟩
    | succ n => exact ih (by simpa using hlength) hplace hreply

/-! ### Limits of a generated overlay -/

/-- A model was asked about the parameter whose description is the text at an index, and replied
with a text. -/
structure IsAnswered (settings : OverlaySettings) (assistant? : Option Assistant) (spec : Spec)
    (n : Nat) (place : TextPlace) (reply : Reply) : Prop where
  isPlace : (places settings spec)[n]? = some place
  isParameter : ∃ position, place.slot = .parameter position
  isReply : (repliesAt (places settings spec)
    ((generate settings assistant? spec).replies assistant?))[n]? = some (some reply)
  notBlank : Text.isBlankText reply.content = false

variable {settings : OverlaySettings} {assistant? : Option Assistant} {spec : Spec} {n : Nat}
  {place : TextPlace} {reply : Reply}

/-- The description that is set is the trimmed text of the reply, which is cut. -/
theorem IsAnswered.getElem?_actions (h : IsAnswered settings assistant? spec n place reply) :
    (generate settings assistant? spec).overlay.actions[n]?
      = some (place.action
          (Text.cutMarked (Text.trim reply.content) settings.maxDescriptionLength)) := by
  obtain ⟨position, hslot⟩ := h.isParameter
  obtain ⟨rules, hlength, -, hactions⟩ := actions_assisted settings assistant? spec
  obtain ⟨rule, htext⟩ := getElem?_adoptedTexts settings hlength h.isPlace h.isReply
  have hadopted : adopted settings place.slot rule (some reply)
      = Text.cutMarked (Text.trim reply.content) settings.maxDescriptionLength := by
    rw [hslot, adopted, if_neg (by simp [h.notBlank])]
    rfl
  rw [hactions, List.getElem?_zipWith, h.isPlace, htext, hadopted]

/-- The description of a parameter that is taken from a reply is the trimmed text of the reply, or a
beginning of it with a mark.  It is within the limit of the settings exactly where the limit leaves
room for the mark or the text of the reply is within the limit by itself. -/
theorem length_description_le_iff (h : IsAnswered settings assistant? spec n place reply) :
    ∃ text, (generate settings assistant? spec).overlay.actions[n]? = some (place.action text) ∧
      (text = Text.trim reply.content ∨ ∃ kept, kept <+: (Text.trim reply.content).toList ∧
        text.toList = kept ++ "...".toList) ∧
      (text.length ≤ settings.maxDescriptionLength ↔
        3 ≤ settings.maxDescriptionLength ∨
          (Text.trim reply.content).length ≤ settings.maxDescriptionLength) :=
  ⟨_, h.getElem?_actions, Text.cutMarked_eq_or_exists_prefix _ _, Text.length_cutMarked_le_iff _ _⟩

/-- The page is described within a limit of four characters, which cuts the text of the reply. -/
theorem length_description_le_iff_notesSpec :
    IsAnswered { maxDescriptionLength := 4 } (some pageAssistant) notesSpec 2
        ⟨"/it's", .get, .parameter 0⟩ ⟨" Page. ", .reported 4 1⟩ ∧
      ∃ text,
        (generate { maxDescriptionLength := 4 } (some pageAssistant) notesSpec).overlay.actions[2]?
          = some (TextPlace.action ⟨"/it's", .get, .parameter 0⟩ text) ∧
        text.length ≤ 4 := by
  have hanswered : IsAnswered { maxDescriptionLength := 4 } (some pageAssistant) notesSpec 2
      ⟨"/it's", .get, .parameter 0⟩ ⟨" Page. ", .reported 4 1⟩ :=
    ⟨by decide, ⟨0, rfl⟩, by decide, by decide⟩
  obtain ⟨text, htext, -, hlimit⟩ := length_description_le_iff hanswered
  exact ⟨hanswered, text, htext, hlimit.mpr (.inl (by decide))⟩

/-- A limit of two characters is not kept: the mark alone is longer. -/
theorem not_length_description_le :
    ¬ ∀ (settings : OverlaySettings) (assistant? : Option Assistant) (spec : Spec) (n : Nat)
      (place : TextPlace) (reply : Reply), IsAnswered settings assistant? spec n place reply →
        ∃ text, (generate settings assistant? spec).overlay.actions[n]? = some (place.action text) ∧
          text.length ≤ settings.maxDescriptionLength ∧
          (text = Text.trim reply.content ∨ ∃ kept, kept <+: (Text.trim reply.content).toList ∧
            text.toList = kept ++ "...".toList) := by
  intro hlimited
  have hanswered : IsAnswered { maxDescriptionLength := 2 } (some pageAssistant) notesSpec 2
      ⟨"/it's", .get, .parameter 0⟩ ⟨" Page. ", .reported 4 1⟩ :=
    ⟨by decide, ⟨0, rfl⟩, by decide, by decide⟩
  obtain ⟨text, htext, hlength, -⟩ := hlimited _ _ _ _ _ _ hanswered
  have hcut : Text.cutMarked (Text.trim " Page. ") 2 = text := by
    simpa [TextPlace.action] using hanswered.getElem?_actions.symm.trans htext
  rw [← hcut] at hlength
  exact absurd hlength (by decide)

end Overlay

end ApiTools
