import ApiTools.Document
import ApiTools.Text.Blank

/-!
# Language models

A language model is asked questions, one after another, and answers a question or fails.  What it
answers may depend on everything, so it is a function of the question and of the question's number.
An answer comes with the number of tokens that it took, as the provider reports it, or estimated
from the number of words.
-/

namespace ApiTools

/-- The number of tokens that a call took. -/
inductive TokenUsage where
  /-- What the provider reports. -/
  | reported (input output : Nat)
  /-- What the number of words suggests. -/
  | estimated (output : Nat)
  deriving DecidableEq, Repr

namespace TokenUsage

/-- The number of tokens of the question. -/
def input : TokenUsage → Nat
  | reported input _ => input
  | estimated _ => 0

/-- The number of tokens of the answer. -/
def output : TokenUsage → Nat
  | reported _ output => output
  | estimated output => output

/-- Is the number an estimate? -/
def isEstimated : TokenUsage → Bool
  | reported .. => false
  | estimated _ => true

/-- The estimate: three words for four tokens. -/
def estimate (content : String) : TokenUsage := estimated ((Text.words content).length * 4 / 3)

/-- A member of an object as an unsigned integer. -/
def countAt? (block : Document) (key : String) : Option Nat :=
  ((block.get? key).bind Document.number?).bind Number.natural?

/-- The numbers in one part of a response, where it has at least one. -/
def reported? (block : Document) (inputKey outputKey : String) : Option TokenUsage :=
  match countAt? block inputKey, countAt? block outputKey with
  | none, none => none
  | input?, output? => some (reported (input?.getD 0) (output?.getD 0))

/-- The parts of a response that may hold the numbers, with the keys of the numbers, in the order in
which they are tried. -/
def places (response : Document) : List (Option Document × String × String) :=
  [(response.get? "usage_metadata", "input_tokens", "output_tokens"),
    (response.get? "token_usage", "prompt_tokens", "completion_tokens"),
    ((response.get? "response_metadata").bind (·.get? "token_usage"), "prompt_tokens",
      "completion_tokens"),
    (response.get? "usage", "prompt_tokens", "completion_tokens")]

/-- The numbers that a response reports, or the estimate from its content. -/
def ofResponse (response : Document) (content : String) : TokenUsage :=
  let found := (places response).findSome? fun (block?, inputKey, outputKey) =>
    block?.bind (reported? · inputKey outputKey)
  found.getD (estimate content)

end TokenUsage

/-- What a language model is asked: its task and the question proper. -/
structure Question where
  system : String
  user : String
  deriving DecidableEq, Repr

/-- What a language model answers. -/
structure Reply where
  content : String
  usage : TokenUsage
  deriving DecidableEq, Repr

/-- The content without blanks around it, where anything is left. -/
def Reply.text? (reply : Reply) : Option String :=
  if Text.isBlankText reply.content then none else some (Text.trim reply.content)

/-- A language model, by what it answers to the question with the given number. -/
abbrev LanguageModel := Nat → Question → Option Reply

namespace LanguageModel

/-- The model that answers nothing. -/
def silent : LanguageModel := fun _ _ => none

/-- The replies to those questions that are there, after the given number of questions. -/
def replies (model : LanguageModel) : (asked : Nat) → List (Option Question) → List (Option Reply)
  | _, [] => []
  | asked, none :: rest => none :: replies model asked rest
  | asked, some question :: rest => model asked question :: replies model (asked + 1) rest

end LanguageModel

end ApiTools
