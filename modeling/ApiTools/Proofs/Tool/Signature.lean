import ApiTools.Proofs.Naming.Names
import ApiTools.Proofs.Tool.Arguments

/-!
# What the signature of a body argument says

An argument for a part of a body has a name of characters of identifiers and no default other than
`None` (`Argument.IsPlain`).  Its signature then tells the name, the type hint and whether it must be
given: the name ends at the first colon, and no type hint ends like a default
(`Argument.signature_eq_iff`).
-/

namespace ApiTools

open Text

/-- No type hint ends like the default `None`. -/
theorem TypeHint.getLast?_render (hint : TypeHint) : hint.render.toList.getLast? ≠ some 'e' := by
  cases hint with
  | list item =>
    rw [render, String.toList_append, List.getLast?_append]
    simp
  | literal values =>
    rw [render, String.toList_append, List.getLast?_append]
    simp
  | _ => decide

namespace Argument

variable {a b : Argument}

/-- Is the name made of characters of identifiers, and the default `None` where there is one? -/
structure IsPlain (a : Argument) : Prop where
  name : ∀ c ∈ a.name.toList, isIdentifierChar c = true
  default : a.default? = none ∨ a.default? = some "None"

/-- The text of the default, after the type hint. -/
def defaultText (a : Argument) : String :=
  match a.default? with
  | some default => " = " ++ default
  | none => ""

theorem toList_signature (a : Argument) : a.signature.toList
    = a.name.toList ++ ':' :: (' ' :: a.hint.render.toList ++ a.defaultText.toList) := by
  unfold signature defaultText
  cases a.default? <;> simp [String.toList_append]

namespace IsPlain

/-- The name is the part of the signature before its first colon. -/
theorem takeWhile_signature (h : a.IsPlain) :
    a.signature.toList.takeWhile isIdentifierChar = a.name.toList := by
  rw [toList_signature, List.takeWhile_append_of_pos h.name, List.takeWhile_cons_of_neg (by decide),
    List.append_nil]

theorem defaultText_eq_iff (ha : a.IsPlain) (hb : b.IsPlain) :
    a.defaultText = b.defaultText ↔ a.default? = b.default? := by
  unfold defaultText
  rcases ha.default with h | h <;> rcases hb.default with h' | h' <;> rw [h, h'] <;> decide

/-- A type hint with the text of a default is not one without. -/
theorem render_ne (ha : a.IsPlain) (hb : b.IsPlain) (h : a.defaultText ≠ b.defaultText) :
    a.hint.render.toList ++ a.defaultText.toList ≠ b.hint.render.toList ++ b.defaultText.toList := by
  intro heq
  have hlast := congrArg List.getLast? heq
  have hhint := a.hint.getLast?_render
  have hhint' := b.hint.getLast?_render
  unfold defaultText at h hlast
  rcases ha.default with hdefault | hdefault <;> rcases hb.default with hdefault' | hdefault'
  · simp [hdefault, hdefault'] at h
  · simp [hdefault, hdefault', List.getLast?_append] at hlast
    exact hhint hlast
  · simp [hdefault, hdefault', List.getLast?_append] at hlast
    exact hhint' hlast.symm
  · simp [hdefault, hdefault'] at h

end IsPlain

theorem signature_eq_iff (ha : a.IsPlain) (hb : b.IsPlain) : a.signature = b.signature ↔
    a.name = b.name ∧ a.hint.render = b.hint.render ∧ a.default? = b.default? := by
  constructor
  · intro h
    have hname : a.name.toList = b.name.toList := by
      rw [← ha.takeWhile_signature, h, hb.takeWhile_signature]
    have hlist := congrArg String.toList h
    rw [toList_signature, toList_signature, hname] at hlist
    have hrest := List.append_cancel_left hlist
    rw [List.cons_append, List.cons_append, List.cons.injEq, List.cons.injEq] at hrest
    have hdefault : a.defaultText = b.defaultText := by
      by_contra hne
      exact ha.render_ne hb hne hrest.2.2
    rw [hdefault] at hrest
    have hhint := List.append_cancel_right hrest.2.2
    exact ⟨String.ext hname, String.ext hhint, (ha.defaultText_eq_iff hb).mp hdefault⟩
  · rintro ⟨hname, hhint, hdefault⟩
    unfold signature
    rw [hname, hhint, hdefault]

end Argument
end ApiTools
