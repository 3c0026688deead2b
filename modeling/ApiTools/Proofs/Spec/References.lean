import ApiTools.Spec.Reference
import ApiTools.Number.Decimal
import Mathlib.Tactic.IntervalCases

/-!
# Chains of references

A document that refers to another one leads on to it (`Spec.ChainsTo`), and the chain ends at a
document that is no reference, or one that names nothing in the description (`Spec.IsEnd`).  A
resolved document lies on the chain, at its end or 32 references along it, whichever comes first
(`chainsTo_resolveWithin`).  As there is one document at each distance and none beyond an end, this
tells what a chain of any length comes to (`resolve_chain`).
-/

namespace ApiTools.Spec

open Document

variable {spec : Spec} {value node last target : Document} {hops period bound : Nat}

/-- Following that many references in a row leads from the one document to the other. -/
inductive ChainsTo (spec : Spec) : Nat → Document → Document → Prop
  | here (node : Document) : ChainsTo spec 0 node node
  | hop {node target last : Document} {hops : Nat} {reference : String}
    (href : node.getText? "$ref" = some reference) (htarget : spec.target? reference = some target)
    (h : ChainsTo spec hops target last) : ChainsTo spec (hops + 1) node last

/-- The document is no reference, or names nothing in the description. -/
def IsEnd (spec : Spec) (node : Document) : Prop :=
  ∀ reference, node.getText? "$ref" = some reference → spec.target? reference = none

/-- The chain comes to a document twice. -/
def IsCircular (spec : Spec) (value : Document) : Prop :=
  ∃ before node period, spec.ChainsTo before value node ∧ spec.ChainsTo (period + 1) node node

/-! ### Single references -/

theorem next?_eq_some_iff : spec.next? node = some target ↔
    ∃ reference, node.getText? "$ref" = some reference ∧ spec.target? reference = some target :=
  Option.bind_eq_some_iff

theorem isEnd_iff : spec.IsEnd node ↔ spec.next? node = none := by
  rw [next?, Option.bind_eq_none_iff]
  rfl

theorem resolveWithin_of_next? (hnext : spec.next? node = some target) (bound : Nat) :
    spec.resolveWithin (bound + 1) node = spec.resolveWithin bound target := by
  rw [resolveWithin, hnext]

theorem resolveWithin_of_isEnd (h : spec.IsEnd node) (bound : Nat) :
    spec.resolveWithin bound node = node := by
  cases bound with
  | zero => rfl
  | succ bound => rw [resolveWithin, isEnd_iff.mp h]

theorem resolve_of_next? (hnext : spec.next? node = some target) :
    spec.resolve node = spec.resolveWithin (maxHops - 1) target :=
  resolveWithin_of_next? hnext (maxHops - 1)

theorem resolve_of_isEnd (h : spec.IsEnd node) : spec.resolve node = node :=
  resolveWithin_of_isEnd h maxHops

/-! ### Chains -/

namespace ChainsTo

theorem next (hnext : spec.next? node = some target) (h : spec.ChainsTo hops target last) :
    spec.ChainsTo (hops + 1) node last := by
  obtain ⟨reference, href, htarget⟩ := next?_eq_some_iff.mp hnext
  exact .hop href htarget h

theorem exists_next (h : spec.ChainsTo (hops + 1) node last) :
    ∃ target, spec.next? node = some target ∧ spec.ChainsTo hops target last := by
  cases h with
  | hop href htarget h => exact ⟨_, next?_eq_some_iff.mpr ⟨_, href, htarget⟩, h⟩

/-- There is one document at each distance. -/
theorem unique (h : spec.ChainsTo hops value node) (h' : spec.ChainsTo hops value last) :
    node = last := by
  induction hops generalizing value with
  | zero =>
    cases h
    cases h'
    rfl
  | succ hops ih =>
    obtain ⟨target, hnext, h⟩ := h.exists_next
    obtain ⟨target', hnext', h'⟩ := h'.exists_next
    cases Option.some.inj (hnext.symm.trans hnext')
    exact ih h h'

theorem trans {more : Nat} (h : spec.ChainsTo hops value node)
    (hmore : spec.ChainsTo more node last) : spec.ChainsTo (hops + more) value last := by
  induction h with
  | here => rwa [Nat.zero_add]
  | hop href htarget _ ih =>
    rw [Nat.add_right_comm]
    exact .hop href htarget (ih hmore)

/-- No chain goes beyond an end. -/
theorem le_of_isEnd {other : Nat} (h : spec.ChainsTo hops value last) (hlast : spec.IsEnd last)
    (hother : spec.ChainsTo other value node) : other ≤ hops := by
  induction other generalizing hops value with
  | zero => exact Nat.zero_le hops
  | succ other ih =>
    obtain ⟨target, hnext, hother⟩ := hother.exists_next
    cases hops with
    | zero =>
      cases h
      rw [isEnd_iff.mp hlast] at hnext
      cases hnext
    | succ hops =>
      -- both go through the same next document, and the end is one reference nearer from there
      obtain ⟨target', hnext', h⟩ := h.exists_next
      cases Option.some.inj (hnext.symm.trans hnext')
      exact Nat.succ_le_succ (ih h hother)

/-- A round can be gone again. -/
theorem round (h : spec.ChainsTo period node node) (rounds : Nat) :
    spec.ChainsTo (rounds * period) node node := by
  induction rounds with
  | zero =>
    rw [Nat.zero_mul]
    exact .here node
  | succ rounds ih =>
    rw [Nat.succ_mul]
    exact ih.trans h

end ChainsTo

/-- A circular chain is longer than any bound. -/
theorem IsCircular.exists_chainsTo (h : spec.IsCircular value) (bound : Nat) :
    ∃ hops > bound, ∃ node, spec.ChainsTo hops value node := by
  obtain ⟨before, node, period, hbefore, hround⟩ := h
  refine ⟨before + (bound + 1) * (period + 1), ?_, node, hbefore.trans (hround.round _)⟩
  have hle : bound + 1 ≤ (bound + 1) * (period + 1) :=
    Nat.le_mul_of_pos_right (bound + 1) (Nat.zero_lt_succ period)
  omega

/-! ### Resolved documents -/

/-- A resolved document lies on the chain, at the bound or at an end before it. -/
theorem chainsTo_resolveWithin (spec : Spec) (bound : Nat) (value : Document) :
    ∃ hops ≤ bound, spec.ChainsTo hops value (spec.resolveWithin bound value) ∧
      (hops = bound ∨ spec.IsEnd (spec.resolveWithin bound value)) := by
  induction bound generalizing value with
  | zero => exact ⟨0, Nat.le_refl 0, .here value, .inl rfl⟩
  | succ bound ih =>
    cases hnext : spec.next? value with
    | none =>
      have hend := isEnd_iff.mpr hnext
      rw [resolveWithin_of_isEnd hend]
      exact ⟨0, Nat.zero_le _, .here value, .inr hend⟩
    | some target =>
      obtain ⟨hops, hle, hchain, hstop⟩ := ih target
      rw [resolveWithin_of_next? hnext]
      exact ⟨hops + 1, Nat.succ_le_succ hle, hchain.next hnext, hstop.imp_left (congrArg _)⟩

theorem resolveWithin_of_chainsTo (h : spec.ChainsTo hops value last) (hlast : spec.IsEnd last)
    (hle : hops ≤ bound) : spec.resolveWithin bound value = last := by
  obtain ⟨reached, hreached, hchain, hstop⟩ := spec.chainsTo_resolveWithin bound value
  have hwithin := h.le_of_isEnd hlast hchain
  -- the document reached is no further than the end, and it is at the bound or an end itself
  have hsame : reached = hops := by
    rcases hstop with heq | hend
    · omega
    · exact Nat.le_antisymm hwithin (hchain.le_of_isEnd hend h)
  exact (hsame ▸ hchain).unique h

theorem chainsTo_resolveWithin_of_lt (h : spec.ChainsTo hops value node) (hlt : bound < hops) :
    spec.ChainsTo bound value (spec.resolveWithin bound value) := by
  obtain ⟨reached, hreached, hchain, hstop⟩ := spec.chainsTo_resolveWithin bound value
  rcases hstop with heq | hend
  · exact heq ▸ hchain
  · exact absurd (hchain.le_of_isEnd hend h) (by omega)

/-- Every chain ends within the bound or goes on beyond it. -/
theorem ends_or_goes_on (spec : Spec) (bound : Nat) (value : Document) :
    (∃ hops ≤ bound, ∃ last, spec.ChainsTo hops value last ∧ spec.IsEnd last) ∨
      ∃ hops > bound, ∃ node, spec.ChainsTo hops value node := by
  obtain ⟨hops, hle, hchain, hstop⟩ := spec.chainsTo_resolveWithin bound value
  cases hnext : spec.next? (spec.resolveWithin bound value) with
  | none => exact .inl ⟨hops, hle, _, hchain, isEnd_iff.mpr hnext⟩
  | some target =>
    have hbound : hops = bound := hstop.resolve_right fun hend => by
      rw [isEnd_iff.mp hend] at hnext
      cases hnext
    have hone : spec.ChainsTo 1 (spec.resolveWithin bound value) target :=
      .next hnext (.here target)
    exact .inr ⟨hops + 1, by omega, target, hchain.trans hone⟩

/-- A chain with an end within 32 references is followed to the end, where resolving again changes
nothing.  A longer chain, such as one that is circular, is followed for 32 references.  There are no
other chains. -/
theorem resolve_chain (spec : Spec) (value : Document) :
    (∀ hops ≤ 32, ∀ last, spec.ChainsTo hops value last → spec.IsEnd last →
      spec.resolve value = last ∧ spec.resolve last = last) ∧
    ((∃ hops > 32, ∃ beyond, spec.ChainsTo hops value beyond) ∨ spec.IsCircular value →
      ∀ node, spec.ChainsTo 32 value node ↔ spec.resolve value = node) ∧
    ((∃ hops ≤ 32, ∃ last, spec.ChainsTo hops value last ∧ spec.IsEnd last) ∨
      ∃ hops > 32, ∃ beyond, spec.ChainsTo hops value beyond) := by
  refine ⟨fun hops hle last hchain hend => ⟨?_, ?_⟩, fun hlong node => ?_,
    spec.ends_or_goes_on 32 value⟩
  · exact resolveWithin_of_chainsTo hchain hend hle
  · exact resolve_of_isEnd hend
  · obtain ⟨hops, hlt, beyond, hbeyond⟩ := hlong.elim id (·.exists_chainsTo 32)
    have hchain : spec.ChainsTo 32 value (spec.resolve value) :=
      chainsTo_resolveWithin_of_lt hbeyond hlt
    exact ⟨fun hnode => hchain.unique hnode, fun heq => heq ▸ hchain⟩

/-- A reference to the link with a number. -/
def link (n : Nat) : Document := .object [("$ref", .text ("#/links/" ++ natText n))]

/-- A reference to itself. -/
def selfLink : Document := .object [("$ref", .text "#/loop")]

/-- Links of which each refers to the next one, with a text at their end, and one that refers to
itself. -/
def linkedSpec : Spec :=
  ⟨.object [("links", .list ((List.range 32).map (fun n => link (n + 1)) ++ [.text "end"])),
    ("loop", selfLink)]⟩

theorem next?_link {n : Nat} (h : n < 32) : linkedSpec.next? (link n) = some (link (n + 1)) := by
  interval_cases n <;> rfl

theorem chainsTo_link (n hops : Nat) (h : n + hops ≤ 32) :
    linkedSpec.ChainsTo hops (link n) (link (n + hops)) := by
  induction hops generalizing n with
  | zero => exact .here _
  | succ hops ih =>
    have hrest := ih (n + 1) (by omega)
    rw [Nat.add_right_comm] at hrest
    exact .next (next?_link (by omega)) hrest

/-- A chain of 32 references is followed to its end; one of 33 stops before it, at a document that
is resolved further; and what refers to itself stays as it is. -/
theorem resolve_chain_links :
    (linkedSpec.ChainsTo 32 (link 1) (.text "end") ∧ linkedSpec.IsEnd (.text "end") ∧
      linkedSpec.resolve (link 1) = .text "end" ∧
      linkedSpec.resolve (.text "end") = .text "end") ∧
    (linkedSpec.ChainsTo 33 (link 0) (.text "end") ∧ linkedSpec.resolve (link 0) = link 32 ∧
      linkedSpec.resolve (link 32) = .text "end") ∧
    linkedSpec.IsCircular selfLink ∧ linkedSpec.resolve selfLink = selfLink := by
  have hend : linkedSpec.IsEnd (.text "end") := fun _ href => nomatch href
  have hone : linkedSpec.ChainsTo 1 (link 32) (.text "end") := .next rfl (.here _)
  have hlinks : linkedSpec.ChainsTo 32 (link 0) (link 32) := chainsTo_link 0 32 (by decide)
  have hshort : linkedSpec.ChainsTo 32 (link 1) (.text "end") :=
    (chainsTo_link 1 31 (by decide)).trans hone
  -- the last link refers to the text, so that it is 33 references from the first one
  have hlong := hlinks.trans hone
  have hround : linkedSpec.ChainsTo 1 selfLink selfLink := .next rfl (.here _)
  have hcircular : linkedSpec.IsCircular selfLink := ⟨0, selfLink, 0, .here _, hround⟩
  obtain ⟨hresolve, hagain⟩ := (linkedSpec.resolve_chain (link 1)).1 32 (by decide) _ hshort hend
  have hstop := (linkedSpec.resolve_chain (link 0)).2.1 (.inl ⟨33, by decide, _, hlong⟩) (link 32)
  have hlast := (linkedSpec.resolve_chain (link 32)).1 1 (by decide) _ hone hend
  have hloop := (linkedSpec.resolve_chain selfLink).2.1 (.inr hcircular) selfLink
  exact ⟨⟨hshort, hend, hresolve, hagain⟩, ⟨hlong, hstop.mp hlinks, hlast.1⟩, hcircular,
    hloop.mp (hround.round 32)⟩

end ApiTools.Spec
