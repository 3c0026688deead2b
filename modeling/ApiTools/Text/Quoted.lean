/-!
# Quoted texts

A quoted text stands between double quotes.  `encode` escapes the double quote, the backslash and
the characters below U+0020, and writes every other character as it is; `decode` reads every escape
of the JSON grammar, pairs of surrogates included.
-/

namespace ApiTools.Text.Quoted

/-- The hexadecimal digit of a number below 16. -/
def hexDigit (n : Nat) : Char := Nat.digitChar n

/-- The value of a hexadecimal digit. -/
def hexValue? (c : Char) : Option Nat :=
  let n := c.toNat
  if 48 ≤ n ∧ n ≤ 57 then some (n - 48)
  else if 97 ≤ n ∧ n ≤ 102 then some (n - 87)
  else if 65 ≤ n ∧ n ≤ 70 then some (n - 55)
  else none

/-- The letter of the short escape of a character that has one. -/
def shortEscape? : Char → Option Char
  | '"' => some '"'
  | '\\' => some '\\'
  | '\x08' => some 'b'
  | '\x0c' => some 'f'
  | '\n' => some 'n'
  | '\r' => some 'r'
  | '\t' => some 't'
  | _ => none

/-- The character as it stands in a quoted text. -/
def escape (c : Char) : List Char :=
  match shortEscape? c with
  | some letter => ['\\', letter]
  | none =>
    if c.toNat < 0x20 then ['\\', 'u', '0', '0', hexDigit (c.toNat / 16), hexDigit (c.toNat % 16)]
    else [c]

/-- The characters between double quotes, escaped. -/
def encodeChars (cs : List Char) : List Char := '"' :: cs.flatMap escape ++ ['"']

/-- The text between double quotes, escaped. -/
def encode (s : String) : String := String.ofList (encodeChars s.toList)

/-- The character of a short escape. -/
def unescape? : Char → Option Char
  | '"' => some '"'
  | '\\' => some '\\'
  | '/' => some '/'
  | 'b' => some '\x08'
  | 'f' => some '\x0c'
  | 'n' => some '\n'
  | 'r' => some '\r'
  | 't' => some '\t'
  | _ => none

/-- The value of four hexadecimal digits. -/
def unit? (a b c d : Char) : Option Nat := do
  let a ← hexValue? a
  let b ← hexValue? b
  let c ← hexValue? c
  let d ← hexValue? d
  return ((a * 16 + b) * 16 + c) * 16 + d

/-- Is it the first half of a surrogate pair? -/
def isHighSurrogate (n : Nat) : Bool := 0xD800 ≤ n && n ≤ 0xDBFF

/-- Is it the second half of a surrogate pair? -/
def isLowSurrogate (n : Nat) : Bool := 0xDC00 ≤ n && n ≤ 0xDFFF

/-- Reads the characters after the opening quote up to the closing one, and returns them with what
follows it.  `done` holds the characters already read, in reverse.  Characters below U+0020, unknown
escapes and surrogates without a partner are refused. -/
def decodeFrom (done : List Char) : List Char → Option (List Char × List Char)
  | [] => none
  | '"' :: rest => some (done.reverse, rest)
  | '\\' :: 'u' :: a :: b :: c :: d :: rest =>
    match unit? a b c d with
    | none => none
    | some n =>
      if isHighSurrogate n then
        match rest with
        | '\\' :: 'u' :: e :: f :: g :: h :: rest =>
          match unit? e f g h with
          | none => none
          | some m =>
            if isLowSurrogate m then
              decodeFrom (Char.ofNat (0x10000 + (n - 0xD800) * 0x400 + (m - 0xDC00)) :: done) rest
            else none
        | _ => none
      else if isLowSurrogate n then none
      else decodeFrom (Char.ofNat n :: done) rest
  | '\\' :: letter :: rest =>
    match unescape? letter with
    | none => none
    | some c => decodeFrom (c :: done) rest
  | c :: rest => if c.toNat < 0x20 || c = '\\' then none else decodeFrom (c :: done) rest

end ApiTools.Text.Quoted
