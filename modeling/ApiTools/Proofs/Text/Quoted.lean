import ApiTools.Text.Quoted
import Mathlib.Tactic.IntervalCases

/-!
# Quoted texts are read back

Each character is read back from its escape, whatever follows it (`decodeFrom_escape`), and so the
characters of a quoted text up to its closing quote (`decodeFrom_flatMap_escape`).
-/

namespace ApiTools.Text.Quoted

variable {c letter : Char} {done cs rest : List Char}

/-! ### Escapes -/

theorem unescape?_of_shortEscape? (h : shortEscape? c = some letter) :
    unescape? letter = some c ∧ letter ≠ 'u' := by
  unfold shortEscape? at h
  split at h <;> cases h <;> exact ⟨rfl, by decide⟩

/-- A character without a short escape that is no control character stands for itself. -/
theorem ne_of_shortEscape?_eq_none (h : shortEscape? c = none) : c ≠ '"' ∧ c ≠ '\\' := by
  constructor <;> rintro rfl <;> cases h

/-- The number of a control character is read from its two hexadecimal digits. -/
theorem unit?_control {n : Nat} (h : n < 32) :
    unit? '0' '0' (hexDigit (n / 16)) (hexDigit (n % 16)) = some n := by
  interval_cases n <;> decide

/-! ### Reading back -/

theorem decodeFrom_escape (done : List Char) (c : Char) (rest : List Char) :
    decodeFrom done (escape c ++ rest) = decodeFrom (c :: done) rest := by
  unfold escape
  split
  · rename_i letter hletter
    obtain ⟨hunescape, hu⟩ := unescape?_of_shortEscape? hletter
    rw [List.cons_append, List.cons_append, List.nil_append, decodeFrom, hunescape]
    exact fun _ _ _ _ _ heq _ => hu heq
  · rename_i hnone
    obtain ⟨hquote, hbackslash⟩ := ne_of_shortEscape?_eq_none hnone
    by_cases hcontrol : c.toNat < 0x20
    · have hunit := unit?_control hcontrol
      have hhigh : isHighSurrogate c.toNat = false := by
        simp only [isHighSurrogate, Bool.and_eq_false_iff, decide_eq_false_iff_not]
        omega
      have hlow : isLowSurrogate c.toNat = false := by
        simp only [isLowSurrogate, Bool.and_eq_false_iff, decide_eq_false_iff_not]
        omega
      rw [if_pos hcontrol]
      simp only [List.cons_append, List.nil_append]
      rw [decodeFrom, hunit]
      simp only [hhigh, hlow, Char.ofNat_toNat, Bool.false_eq_true, if_false]
    · rw [if_neg hcontrol, List.singleton_append, decodeFrom]
      · rw [if_neg (by simp [hcontrol, hbackslash])]
      all_goals simp [hquote, hbackslash]

theorem decodeFrom_flatMap_escape (done cs rest : List Char) :
    decodeFrom done (cs.flatMap escape ++ '"' :: rest) = some (done.reverse ++ cs, rest) := by
  induction cs generalizing done with
  | nil => rw [List.flatMap_nil, List.nil_append, decodeFrom, List.append_nil]
  | cons c cs ih =>
    rw [List.flatMap_cons, List.append_assoc, decodeFrom_escape, ih, List.reverse_cons,
      List.append_assoc, List.singleton_append]

end ApiTools.Text.Quoted
