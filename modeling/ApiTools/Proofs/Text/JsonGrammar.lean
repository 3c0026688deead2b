import ApiTools.Document.Json
import ApiTools.Proofs.Number.Digits
import Mathlib.Data.List.DropRight

/-!
# The grammar of JSON numbers and texts

`IsJsonNumber` and `IsJsonText` are the rules of JSON for what a number and a quoted text look like.
Every number that is written is of the first form, if it is finite (`Number.isJsonNumber_json`), and
every text that is quoted is of the second (`Quoted.isJsonText_encodeChars`).  A decimal is laid out
in one of four ways, each of which leaves digits where the rules ask for digits
(`isUnsignedNumber_layOut`); that it begins with no zero comes from the digits of a number that is not
zero (`shortestFrom_ne_zero`).
-/

namespace ApiTools

/-! ### The rules -/

/-- One or more decimal digits. -/
def IsDigits (cs : List Char) : Prop := cs ≠ [] ∧ ∀ c ∈ cs, isDigitChar c = true

/-- What stands before the point: one zero, or digits that do not begin with a zero. -/
def IsWholePart (cs : List Char) : Prop := IsDigits cs ∧ (cs.head? = some '0' → cs = ['0'])

/-- Nothing, or a point and digits. -/
inductive IsFractionPart : List Char → Prop
  | none : IsFractionPart []
  | point {digits : List Char} (h : IsDigits digits) : IsFractionPart ('.' :: digits)

/-- Nothing, or the letter of an exponent with its digits, after a sign or not. -/
inductive IsExponentPart : List Char → Prop
  | none : IsExponentPart []
  | exponent {letter : Char} {sign digits : List Char} (hletter : letter = 'e' ∨ letter = 'E')
      (hsign : sign = [] ∨ sign = ['+'] ∨ sign = ['-']) (h : IsDigits digits) :
    IsExponentPart (letter :: sign ++ digits)

/-- A number of JSON without a sign. -/
inductive IsUnsignedNumber : List Char → Prop
  | parts {whole fraction exponent : List Char} (hwhole : IsWholePart whole)
      (hfraction : IsFractionPart fraction) (hexponent : IsExponentPart exponent) :
    IsUnsignedNumber (whole ++ fraction ++ exponent)

/-- A number of JSON. -/
inductive IsJsonNumber : List Char → Prop
  | positive {cs : List Char} (h : IsUnsignedNumber cs) : IsJsonNumber cs
  | negative {cs : List Char} (h : IsUnsignedNumber cs) : IsJsonNumber ('-' :: cs)

/-- Is it a digit of base 16? -/
def IsHexDigit (c : Char) : Prop := c ∈ "0123456789abcdefABCDEF".toList

instance : DecidablePred IsHexDigit := fun c => inferInstanceAs (Decidable (c ∈ _))

/-- One character in a text of JSON: as it is, if it is no quote, no backslash and no control
character, or by an escape. -/
inductive IsJsonCharacter : List Char → Prop
  | plain {c : Char} (hquote : c ≠ '"') (hbackslash : c ≠ '\\') (hcontrol : 0x20 ≤ c.toNat) :
    IsJsonCharacter [c]
  | short {letter : Char} (h : letter ∈ ['"', '\\', '/', 'b', 'f', 'n', 'r', 't']) :
    IsJsonCharacter ['\\', letter]
  | code {a b c d : Char} (ha : IsHexDigit a) (hb : IsHexDigit b) (hc : IsHexDigit c)
      (hd : IsHexDigit d) : IsJsonCharacter ['\\', 'u', a, b, c, d]

/-- A text of JSON: characters between two quotes. -/
inductive IsJsonText : List Char → Prop
  | quoted {characters : List (List Char)} (h : ∀ cs ∈ characters, IsJsonCharacter cs) :
    IsJsonText ('"' :: characters.flatten ++ ['"'])

/-! ### Texts -/

namespace Text.Quoted

theorem isHexDigit_hexDigit {n : Nat} (h : n < 16) : IsHexDigit (hexDigit n) := by
  have hdigits : ∀ n < 16, IsHexDigit (hexDigit n) := by decide
  exact hdigits n h

theorem isJsonCharacter_escape (c : Char) : IsJsonCharacter (escape c) := by
  unfold escape
  split
  · next letter hletter =>
    refine .short ?_
    unfold shortEscape? at hletter
    split at hletter <;> cases hletter <;> decide
  · next hnone =>
    split_ifs with hlow
    · exact .code (by decide) (by decide) (isHexDigit_hexDigit (by omega))
        (isHexDigit_hexDigit (by omega))
    · refine .plain ?_ ?_ (Nat.le_of_not_lt hlow)
      · rintro rfl
        cases hnone
      · rintro rfl
        cases hnone

theorem isJsonText_encodeChars (cs : List Char) : IsJsonText (encodeChars cs) := by
  unfold encodeChars
  rw [List.flatMap_def]
  refine .quoted fun piece hpiece => ?_
  obtain ⟨c, -, rfl⟩ := List.mem_map.mp hpiece
  exact isJsonCharacter_escape c

end Text.Quoted

/-! ### Digits -/

variable {digits : List Char}

theorem isDigits_toDigits (n : Nat) : IsDigits (Nat.toDigits 10 n) :=
  ⟨Nat.toDigits_ne_nil, fun _ => isDigitChar_of_mem_toDigits⟩

theorem IsDigits.append (h : IsDigits digits) {more : List Char}
    (hmore : ∀ c ∈ more, isDigitChar c = true) : IsDigits (digits ++ more) :=
  ⟨List.append_ne_nil_of_left_ne_nil h.1 more, List.forall_mem_append.mpr ⟨h.2, hmore⟩⟩

theorem isDigitChar_of_mem_zeros {count : Nat} {c : Char} (h : c ∈ List.replicate count '0') :
    isDigitChar c = true := by
  rw [List.eq_of_mem_replicate h]
  decide

theorem IsDigits.isWholePart (h : IsDigits digits) (hhead : digits.head? ≠ some '0') :
    IsWholePart digits := ⟨h, fun hzero => absurd hzero hhead⟩

theorem isDigits_zero : IsDigits ['0'] :=
  ⟨List.cons_ne_nil _ _, List.forall_mem_singleton.mpr (by decide)⟩

theorem isWholePart_zero : IsWholePart ['0'] := ⟨isDigits_zero, fun _ => rfl⟩

theorem isWholePart_toDigits (n : Nat) : IsWholePart (Nat.toDigits 10 n) := by
  by_cases hn : n = 0
  · rw [hn]
    exact isWholePart_zero
  · exact (isDigits_toDigits n).isWholePart (head?_toDigits_ne hn)

theorem IsWholePart.isUnsignedNumber (h : IsWholePart digits) : IsUnsignedNumber digits := by
  have hparts := IsUnsignedNumber.parts h .none .none
  simpa using hparts

theorem isExponentPart_intText (plusSign : Bool) (i : Int) :
    IsExponentPart ('e' :: (if plusSign ∧ 0 ≤ i then ['+'] else []) ++ (intText i).toList) := by
  unfold intText
  by_cases hneg : i < 0
  · rw [if_pos hneg, if_neg (by omega), String.toList_append, toList_natText]
    exact @IsExponentPart.exponent 'e' ['-'] _ (.inl rfl) (.inr (.inr rfl)) (isDigits_toDigits _)
  · rw [if_neg hneg, toList_natText]
    refine .exponent (.inl rfl) ?_ (isDigits_toDigits _)
    split_ifs
    · exact .inr (.inl rfl)
    · exact .inl rfl

/-! ### Decimals -/

namespace DecimalFormat

theorem isFractionPart_wholeEnd (format : DecimalFormat) : IsFractionPart format.wholeEnd := by
  unfold wholeEnd
  split_ifs
  · exact .point isDigits_zero
  · exact .none

/-- Cut by a point, digits are a whole part and a fraction part. -/
theorem isWholePart_take_and_isDigits_drop (h : IsDigits digits)
    (hhead : digits.head? ≠ some '0') {whole : Nat} (hpos : 0 < whole)
    (hlt : whole < digits.length) :
    IsWholePart (digits.take whole) ∧ IsDigits (digits.drop whole) := by
  have htake : digits.take whole ≠ [] := by
    rw [Ne, List.take_eq_nil_iff]
    exact not_or.mpr ⟨Nat.pos_iff_ne_zero.mp hpos, h.1⟩
  have hdrop : digits.drop whole ≠ [] := by
    rw [Ne, List.drop_eq_nil_iff]
    omega
  refine ⟨IsDigits.isWholePart ⟨htake, fun c hc => h.2 c (List.mem_of_mem_take hc)⟩ ?_,
    hdrop, fun c hc => h.2 c (List.mem_of_mem_drop hc)⟩
  rwa [List.head?_take, if_neg (Nat.pos_iff_ne_zero.mp hpos)]

/-- Of digits in scientific form the first one stands before the point. -/
theorem exists_significand (h : IsDigits digits) (hhead : digits.head? ≠ some '0') :
    ∃ whole fraction, IsWholePart whole ∧ IsFractionPart fraction ∧
      (if digits.length = 1 then digits else pointed digits 1) = whole ++ fraction := by
  have hlength : 0 < digits.length := List.length_pos_iff.mpr h.1
  split_ifs with hone
  · exact ⟨digits, [], h.isWholePart hhead, .none, (List.append_nil _).symm⟩
  · obtain ⟨hwhole, hfraction⟩ :=
      isWholePart_take_and_isDigits_drop h hhead Nat.one_pos (by omega)
    exact ⟨_, _, hwhole, .point hfraction, rfl⟩

/-- However digits are laid out, they are a number. -/
theorem isUnsignedNumber_layOut (format : DecimalFormat) (h : IsDigits digits)
    (hhead : digits.head? ≠ some '0') (exponent : Int) :
    IsUnsignedNumber (format.layOut digits exponent) := by
  have hlength : 0 < digits.length := List.length_pos_iff.mpr h.1
  obtain ⟨whole, fraction, hwhole, hfraction, hsignificand⟩ := exists_significand h hhead
  unfold layOut
  dsimp only
  rw [hsignificand]
  by_cases hrange : format.leastPositional ≤ exponent + digits.length - 1 ∧
      exponent + digits.length - 1 < format.beyondPositional
  · rw [if_pos hrange]
    split_ifs
    · -- zeros up to the point
      have hwhole : IsWholePart (digits ++ List.replicate exponent.toNat '0') := by
        refine (h.append fun _ => isDigitChar_of_mem_zeros).isWholePart ?_
        rw [List.head?_append, List.head?_eq_some_head h.1, Option.some_or,
          ← List.head?_eq_some_head h.1]
        exact hhead
      have hparts := IsUnsignedNumber.parts hwhole format.isFractionPart_wholeEnd .none
      rwa [List.append_nil] at hparts
    · -- a point among the digits
      have hpos : 0 < (exponent + digits.length - 1 + 1).toNat := by omega
      obtain ⟨hwhole, hfraction⟩ := isWholePart_take_and_isDigits_drop h hhead hpos (by omega)
      have hparts := IsUnsignedNumber.parts hwhole (.point hfraction) .none
      rwa [List.append_nil] at hparts
    · -- a point and zeros before the digits
      have hfraction : IsDigits (List.replicate (-(exponent + digits.length - 1) - 1).toNat '0'
          ++ digits) :=
        ⟨List.append_ne_nil_of_right_ne_nil _ h.1,
          List.forall_mem_append.mpr ⟨fun _ => isDigitChar_of_mem_zeros, h.2⟩⟩
      have hparts := IsUnsignedNumber.parts isWholePart_zero (.point hfraction) .none
      rwa [List.append_nil] at hparts
  · rw [if_neg hrange, List.append_assoc]
    exact .parts hwhole hfraction (isExponentPart_intText format.plusSign _)

/-- Without the zeros at its end a number that is not zero still has its first digit. -/
theorem stripZeros_toDigits {n : Nat} (h : n ≠ 0) (exponent : Int) :
    IsDigits (stripZeros (Nat.toDigits 10 n) exponent).1 ∧
      (stripZeros (Nat.toDigits 10 n) exponent).1.head? ≠ some '0' := by
  have hhead := head?_toDigits_ne h
  obtain ⟨hne, hdigits⟩ := isDigits_toDigits n
  -- what is left is the digits up to the last one that is not a zero
  change IsDigits ((Nat.toDigits 10 n).rdropWhile (· == '0')) ∧
    ((Nat.toDigits 10 n).rdropWhile (· == '0')).head? ≠ some '0'
  obtain ⟨zeros, hsplit⟩ := List.rdropWhile_prefix (· == '0') (Nat.toDigits 10 n)
  generalize hleft : (Nat.toDigits 10 n).rdropWhile (· == '0') = left at hsplit
  have hleftNe : left ≠ [] := by
    rintro rfl
    have hall := List.rdropWhile_eq_nil_iff.mp hleft _ (List.head_mem hne)
    rw [List.head?_eq_some_head hne] at hhead
    exact hhead (congrArg some (eq_of_beq hall))
  rw [← hsplit] at hhead hdigits
  refine ⟨⟨hleftNe, fun c hc => hdigits c (List.mem_append_left _ hc)⟩, ?_⟩
  rwa [List.head?_append, List.head?_eq_some_head hleftNe, Option.some_or,
    ← List.head?_eq_some_head hleftNe] at hhead

end DecimalFormat

namespace Binary64

/-- The decimal of a number that is not zero is not zero. -/
theorem shortestFrom_ne_zero {mantissa : Nat} (h : mantissa ≠ 0) (scale : Int) (count : Nat)
    (exponent : Int) : (shortestFrom mantissa scale count exponent).1 ≠ 0 := by
  induction count generalizing exponent with
  | zero => exact h
  | succ count ih =>
    rw [shortestFrom]
    split
    · next d hd =>
      have hfound := List.find?_some hd
      simp only [Bool.and_eq_true, decide_eq_true_eq] at hfound
      exact hfound.1
    · exact ih _

end Binary64

/-- A finite number is written as a number of JSON, in every format. -/
theorem DecimalFormat.isJsonNumber_write (format : DecimalFormat) {x : Binary64}
    (h : x.isFinite = true) : IsJsonNumber (format.write x).toList := by
  cases x with
  | nan | infinite => cases h
  | finite negative mantissa scale =>
    have hbody : IsUnsignedNumber (if mantissa = 0 then '0' :: format.wholeEnd
        else format.layOut (stripZeros (Nat.toDigits 10 (Binary64.shortest mantissa scale).1)
          (Binary64.shortest mantissa scale).2).1
            (stripZeros (Nat.toDigits 10 (Binary64.shortest mantissa scale).1)
              (Binary64.shortest mantissa scale).2).2) := by
      split_ifs with hzero
      · have hparts := IsUnsignedNumber.parts isWholePart_zero format.isFractionPart_wholeEnd .none
        rwa [List.append_nil] at hparts
      · have hshortest : (Binary64.shortest mantissa scale).1 ≠ 0 :=
          Binary64.shortestFrom_ne_zero hzero _ _ _
        obtain ⟨hdigits, hhead⟩ :=
          stripZeros_toDigits hshortest (Binary64.shortest mantissa scale).2
        exact format.isUnsignedNumber_layOut hdigits hhead _
    unfold write
    rw [String.toList_ofList]
    cases negative
    · exact .positive hbody
    · exact .negative hbody

/-- Is it not one of the floating-point values that stand for no number? -/
def Number.IsFinite : Number → Prop
  | .int _ => True
  | .float x => x.isFinite = true

theorem Number.isJsonNumber_json {n : Number} (h : n.IsFinite) : IsJsonNumber n.json.toList := by
  cases n with
  | int i =>
    change IsJsonNumber (intText i).toList
    unfold intText
    split_ifs
    · rw [String.toList_append, toList_natText]
      exact .negative (isWholePart_toDigits _).isUnsignedNumber
    · rw [toList_natText]
      exact .positive (isWholePart_toDigits _).isUnsignedNumber
  | float x => exact jsonNumber.isJsonNumber_write h

end ApiTools
