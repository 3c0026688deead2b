import ApiTools.Text.Table.Escaped
import ApiTools.Text.Quoted

/-!
# Texts shown in messages

A text is shown between double quotes.  Quotes, backslashes and the common controls have short
escapes, and a character that has no shape of its own is shown by its code.
-/

namespace ApiTools.Text.Shown

/-- The letter of the short escape of a character that has one. -/
def shortEscape? : Char → Option Char
  | '\x00' => some '0'
  | '\t' => some 't'
  | '\r' => some 'r'
  | '\n' => some 'n'
  | '"' => some '"'
  | '\\' => some '\\'
  | _ => none

/-- Is the character shown by its code? -/
def isShownByCode (c : Char) : Bool :=
  if 0x20 ≤ c.toNat && c.toNat < 0x7F then false else Table.inRuns Table.escaped c.toNat

/-- The character as it is shown. -/
def escape (c : Char) : List Char :=
  match shortEscape? c with
  | some letter => ['\\', letter]
  | none =>
    if isShownByCode c then '\\' :: 'u' :: '\x7b' :: Nat.toDigits 16 c.toNat ++ ['\x7d'] else [c]

/-- The text as it is shown. -/
def encode (s : String) : String := String.ofList ('"' :: s.toList.flatMap escape ++ ['"'])

/-- The texts as a list of them is shown. -/
def encodeList (texts : List String) : String :=
  "[" ++ String.intercalate ", " (texts.map encode) ++ "]"

end ApiTools.Text.Shown
