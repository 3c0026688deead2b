import Mathlib.Tactic.Positivity
import Mathlib.Tactic.Ring
import ApiTools.Document.Same
import ApiTools.Proofs.Document.Members

/-!
# Equal value is passed on

`Document.same_trans`: documents that have the value of one and the same document have the value of
each other.  For numbers two finite ones are compared at a scale that all three share.
-/

namespace ApiTools

namespace Binary64

theorem signed_mul (negative : Bool) (magnitude factor : Nat) :
    signed negative (magnitude * factor) = signed negative magnitude * factor := by
  unfold signed
  split_ifs <;> push_cast <;> ring

/-- Two finite numbers have one value when their mantissas agree at any scale below both. -/
theorem sameValue_finite_iff {s t : Bool} {m n : Nat} {q r low : Int} (hq : low ≤ q)
    (hr : low ≤ r) : sameValue (.finite s m q) (.finite t n r) = true ↔
      signed s (m * 2 ^ (q - low).toNat) = signed t (n * 2 ^ (r - low).toNat) := by
  -- the comparison is made at the lesser of the two scales, which is a power of two above `low`
  have hscaled (negative : Bool) (mantissa : Nat) (scale : Int) (h : min q r ≤ scale) :
      signed negative (mantissa * 2 ^ (scale - low).toNat)
        = signed negative (mantissa * 2 ^ (scale - min q r).toNat)
          * (2 ^ (min q r - low).toNat : Nat) := by
    have hsplit : (scale - low).toNat = (scale - min q r).toNat + (min q r - low).toNat := by omega
    rw [hsplit, pow_add, ← Nat.mul_assoc, signed_mul]
  have hpower : ((2 ^ (min q r - low).toNat : Nat) : Int) ≠ 0 := by positivity
  rw [hscaled s m q (min_le_left q r), hscaled t n r (min_le_right q r),
    Int.mul_eq_mul_right_iff hpower]
  simp [sameValue, compare?]

theorem sameValue_trans {x y z : Binary64} (hxy : sameValue x y = true)
    (hyz : sameValue y z = true) : sameValue x z = true := by
  match x, y, z with
  | .finite s m q, .finite t n r, .finite u k p =>
    have hq : min q (min r p) ≤ q := by omega
    have hr : min q (min r p) ≤ r := by omega
    have hp : min q (min r p) ≤ p := by omega
    rw [sameValue_finite_iff hq hr] at hxy
    rw [sameValue_finite_iff hr hp] at hyz
    rw [sameValue_finite_iff hq hp]
    exact hxy.trans hyz
  | .infinite s, .infinite t, .infinite u =>
    cases s <;> cases t <;> cases u <;> simp_all [sameValue, compare?]
  | .nan, _, _ => simp [sameValue, compare?] at hxy
  | .finite .., .nan, _ | .infinite _, .nan, _ => simp [sameValue, compare?] at hxy
  | .finite .., .infinite t, _ => cases t <;> simp [sameValue, compare?] at hxy
  | .infinite s, .finite .., _ => cases s <;> simp [sameValue, compare?] at hxy
  | _, .finite .., .nan | _, .infinite _, .nan => simp [sameValue, compare?] at hyz
  | _, .finite .., .infinite u => cases u <;> simp [sameValue, compare?] at hyz
  | _, .infinite t, .finite .. => cases t <;> simp [sameValue, compare?] at hyz

end Binary64

theorem Number.same_trans {m n k : Number} (hmn : m.same n = true) (hnk : n.same k = true) :
    m.same k = true := by
  match m, n, k with
  | .int i, .int j, .int l => simp_all [Number.same]
  | .float x, .float y, .float z => exact Binary64.sameValue_trans hmn hnk

namespace Document

/-- Every member has its partner of equal value. -/
theorem sameMembers_iff {members others : Members} :
    sameMembers members others = true ↔ ∀ entry ∈ members,
      ∃ other, Members.get? others entry.1 = some other ∧ same entry.2 other = true := by
  induction members with
  | nil => simp [sameMembers]
  | cons entry rest ih =>
    rw [sameMembers, Bool.and_eq_true, ih, List.forall_mem_cons]
    refine and_congr_left fun _ => ?_
    cases Members.get? others entry.1 with
    | none => simp
    | some other => simp

mutual
theorem same_trans : (doc : Document) → {other third : Document} → doc.same other = true →
    other.same third = true → doc.same third = true
  | .null, .null, .null, _, _ => rfl
  | .bool a, .bool b, .bool c, h, h' => by simp_all [same]
  | .number m, .number n, .number k, h, h' => Number.same_trans h h'
  | .text s, .text t, .text u, h, h' => by simp_all [same]
  | .list xs, .list ys, .list zs, h, h' => sameItems_trans xs h h'
  | .object ms, .object ns, .object os, h, h' => by
    rw [same, Bool.and_eq_true, beq_iff_eq] at h h' ⊢
    exact ⟨h.1.trans h'.1, sameMembers_trans ms h.2 h'.2⟩

theorem sameItems_trans : (items : List Document) → {others thirds : List Document} →
    sameItems items others = true → sameItems others thirds = true →
    sameItems items thirds = true
  | [], [], [], _, _ => rfl
  | x :: xs, y :: ys, z :: zs, h, h' => by
    rw [sameItems, Bool.and_eq_true] at h h' ⊢
    exact ⟨same_trans x h.1 h'.1, sameItems_trans xs h.2 h'.2⟩

theorem sameMembers_trans : (members : Members) → {others thirds : Members} →
    sameMembers members others = true → sameMembers others thirds = true →
    sameMembers members thirds = true
  | [], _, _, _, _ => rfl
  | (key, value) :: rest, others, thirds, h, h' => by
    rw [sameMembers_iff, List.forall_mem_cons] at h ⊢
    obtain ⟨⟨other, hother, hsame⟩, hrest⟩ := h
    -- the partner is a member of the second object, and so has a partner in the third
    obtain ⟨third, hthird, hsame'⟩ := sameMembers_iff.mp h' _ (Members.mem_of_get? hother)
    refine ⟨⟨third, hthird, same_trans value hsame hsame'⟩, ?_⟩
    exact sameMembers_iff.mp (sameMembers_trans rest (sameMembers_iff.mpr hrest) h')
end

end Document

end ApiTools
