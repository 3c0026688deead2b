/-!
# The order of texts

Texts are ordered by the codes of their characters, and lists of texts by the first place at which
they differ.
-/

namespace ApiTools.Text

/-- Does the first list of texts not come after the second? -/
def notAfter : List String → List String → Bool
  | [], _ => true
  | _ :: _, [] => false
  | a :: as, b :: bs => a < b || (a == b && notAfter as bs)

/-- The texts in order. -/
def sorted (texts : List String) : List String := texts.mergeSort fun a b => decide (a ≤ b)

/-- The texts in order, each once. -/
def sortedOnce (texts : List String) : List String := sorted texts.eraseDups

end ApiTools.Text
