import ApiTools.Text.Blank
import ApiTools.Text.Case
import ApiTools.Text.Cut

/-!
# What source texts define and register

A module of tools defines a function at the beginning of a line, by `async def` and its name before
a parenthesis.  A server registers a function by a call `mcp.tool()(module.function)`.
-/

namespace ApiTools.Audit

/-- What follows the word at the beginning of the characters. -/
def after? (word : List Char) (cs : List Char) : Option (List Char) :=
  if word.isPrefixOf cs then some (cs.drop word.length) else none

/-- What follows the blank characters at the beginning, of which there must be one. -/
def afterBlanks? : List Char → Option (List Char)
  | [] => none
  | c :: rest => if Text.isBlank c then some (rest.dropWhile Text.isBlank) else none

/-- Can a name begin with the character? -/
def isNameStart (c : Char) : Bool := Text.isIdentifierChar c && !Text.isAsciiDigit c

/-- The name at the beginning of the characters, where a parenthesis follows it. -/
def called? (cs : List Char) : Option String :=
  let name := cs.takeWhile Text.isIdentifierChar
  let rest := (cs.dropWhile Text.isIdentifierChar).dropWhile Text.isBlank
  match name, rest with
  | c :: _, '(' :: _ => if isNameStart c then some (String.ofList name) else none
  | _, _ => none

/-- The name of the function whose definition stands at the beginning of the characters. -/
def defined? (cs : List Char) : Option String := do
  let rest ← after? "async".toList cs
  let rest ← afterBlanks? rest
  let rest ← after? "def".toList rest
  called? (← afterBlanks? rest)

/-- The functions that are defined from a line on, with the numbers of their lines. -/
def definitionsFrom (line : Nat) (atStart : Bool) : List Char → List (String × Nat)
  | [] => []
  | c :: rest =>
    let more := definitionsFrom (if c = '\n' then line + 1 else line) (c = '\n') rest
    match if atStart then defined? (c :: rest) else none with
    | some name => (name, line) :: more
    | none => more

/-- The functions that a module defines, with the numbers of their lines. -/
def definitions (source : String) : List (String × Nat) := definitionsFrom 1 true source.toList

/-- How a registration begins. -/
def registrationStart : List Char := "mcp.tool()(".toList

/-- The name that is registered at the beginning of the characters, and the number of characters
that its registration takes.  The module's name ends at the first point, and the function's at the
first closing parenthesis after it; neither is empty. -/
def registered? (cs : List Char) : Option (String × Nat) :=
  match after? registrationStart cs with
  | none => none
  | some rest =>
    let module := rest.takeWhile (· ≠ '.')
    match rest.dropWhile (· ≠ '.') with
    | [] => none
    | _ :: rest =>
      let function := rest.takeWhile (· ≠ ')')
      match rest.dropWhile (· ≠ ')') with
      | [] => none
      | _ :: _ =>
        if module.isEmpty || function.isEmpty then none
        else some (String.ofList (Text.trimChars function),
          registrationStart.length + module.length + 1 + function.length + 1)

/-- The names that are registered, where `skip` characters belong to a registration already read. -/
def registrationsFrom : (skip : Nat) → List Char → List String
  | _, [] => []
  | skip + 1, _ :: rest => registrationsFrom skip rest
  | 0, c :: rest =>
    match registered? (c :: rest) with
    | some (name, taken) => name :: registrationsFrom (taken - 1) rest
    | none => registrationsFrom 0 rest

/-- The names that a server registers, in the order of the text. -/
def registrations (source : String) : List String := registrationsFrom 0 source.toList

end ApiTools.Audit
