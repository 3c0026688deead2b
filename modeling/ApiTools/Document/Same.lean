import ApiTools.Document

/-!
# Documents of equal value

Two documents have the same value when they differ at most in the order of members and in the sign
of zero.  An integer never equals a floating-point number.
-/

namespace ApiTools

/-- Are the two numbers of one kind and of equal value? -/
def Number.same : Number → Number → Bool
  | .int i, .int j => i == j
  | .float x, .float y => Binary64.sameValue x y
  | _, _ => false

namespace Document

mutual
/-- Are the two documents of equal value? -/
def same : Document → Document → Bool
  | .null, .null => true
  | .bool a, .bool b => a == b
  | .number m, .number n => m.same n
  | .text s, .text t => s == t
  | .list xs, .list ys => sameItems xs ys
  | .object ms, .object ns => ms.length == ns.length && sameMembers ms ns
  | _, _ => false

/-- Are the items pairwise of equal value? -/
def sameItems : List Document → List Document → Bool
  | [], [] => true
  | x :: xs, y :: ys => same x y && sameItems xs ys
  | _, _ => false

/-- Has every member its partner of equal value among the others? -/
def sameMembers : List (String × Document) → Members → Bool
  | [], _ => true
  | (key, value) :: rest, others =>
    (match Members.get? others key with
    | some other => same value other
    | none => false) && sameMembers rest others
end

end Document

end ApiTools
