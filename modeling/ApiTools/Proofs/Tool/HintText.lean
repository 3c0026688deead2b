import ApiTools.Proofs.Spec.Supplied
import ApiTools.Proofs.Text.JsonGrammar
import ApiTools.Proofs.Tool.Agreement

/-!
# The texts of type hints

`IsHintText` is the grammar of the type hints of a generated package, with the number of lists that
may stand in one another.  Every schema has a type hint of this grammar with at most 17 lists,
however the description refers to itself (`Spec.isHintText_typeHint`).  All its numbers are finite
there, as the numbers of JSON are.
-/

namespace ApiTools

open Document

/-! ### The grammar -/

/-- The text of a literal: a constant, a number or a quoted text. -/
inductive IsLiteralText : String → Prop
  | none : IsLiteralText "None"
  | true : IsLiteralText "True"
  | false : IsLiteralText "False"
  | number {s : String} (h : IsJsonNumber s.toList) : IsLiteralText s
  | text {s : String} (h : IsJsonText s.toList) : IsLiteralText s

/-- The text of a type hint in which at most the given number of lists stand in one another. -/
inductive IsHintText : (lists : Nat) → String → Prop
  | name {lists : Nat} {s : String}
      (h : s ∈ ["int", "float", "bool", "str", "Any", "Dict[str, Any]"]) : IsHintText lists s
  | list {lists : Nat} {s : String} (h : IsHintText lists s) :
    IsHintText (lists + 1) ("List[" ++ s ++ "]")
  | literal {lists : Nat} {texts : List String} (hne : texts ≠ [])
      (h : ∀ s ∈ texts, IsLiteralText s) :
    IsHintText lists ("Literal[" ++ Text.join ", " texts ++ "]")

theorem IsHintText.succ {lists : Nat} {s : String} (h : IsHintText lists s) :
    IsHintText (lists + 1) s := by
  induction h with
  | name h => exact .name h
  | list _ ih => exact .list ih
  | literal hne h => exact .literal hne h

/-! ### Literals -/

namespace Document

/-- All numbers in the document are finite. -/
def HasFiniteNumbers (doc : Document) : Prop :=
  ∀ part ∈ doc.parts, ∀ number ∈ part.number?, number.IsFinite

instance : DecidablePred Number.IsFinite
  | .int _ => instDecidableTrue
  | .float x => inferInstanceAs (Decidable (x.isFinite = true))

instance (doc : Document) : Decidable doc.HasFiniteNumbers :=
  inferInstanceAs (Decidable (∀ part ∈ doc.parts, _))

theorem HasFiniteNumbers.of_part {doc part : Document} (h : doc.HasFiniteNumbers)
    (hpart : part ∈ doc.parts) : part.HasFiniteNumbers :=
  fun inner hinner => h inner (mem_parts_trans doc hinner hpart)

end Document

theorem Literal.isLiteralText_render {doc : Document} (h : doc.HasFiniteNumbers) :
    IsLiteralText (Literal.ofDocument doc).render := by
  have htext : ∀ s : String, IsLiteralText (Literal.text s).render := fun s => by
    refine .text ?_
    rw [render, Text.Quoted.encode, String.toList_ofList]
    exact Text.Quoted.isJsonText_encodeChars _
  cases doc with
  | null => exact .none
  | bool b =>
    cases b
    · exact .false
    · exact .true
  | number n => exact .number (Number.isJsonNumber_json (h _ (self_mem_parts _) n rfl))
  | text s => exact htext s
  | list items => exact htext _
  | object members => exact htext _

/-! ### One level -/

namespace TypeHint

/-- The common type hint of alternatives is the one of an alternative, unless there are none or they
differ. -/
theorem common_cases (hints : List TypeHint) :
    common hints = .str ∨ common hints = .any ∨ common hints ∈ hints := by
  unfold common
  split
  · exact .inl rfl
  · split_ifs
    · exact .inr (.inr (List.mem_cons_self ..))
    · exact .inr (.inl rfl)

end TypeHint

namespace Spec

variable {spec : Spec} {schema : Document} {levels : Nat}

/-- What one level of a type hint can be: literals, a name, a list of a hint one level below, or the
hint of an alternative one level below. -/
theorem typeHintWithin_succ_cases (spec : Spec) (levels : Nat) (schema : Document) :
    (∃ values, values ≠ [] ∧ (spec.resolveSchema schema).getItems? "enum" = some values ∧
        spec.typeHintWithin (levels + 1) schema = .literal (values.map Literal.ofDocument)) ∨
    spec.typeHintWithin (levels + 1) schema
      ∈ [TypeHint.int, .float, .bool, .str, .any, .dict, .list .any] ∨
    (∃ items, (spec.resolveSchema schema).get? "items" = some items ∧
        spec.typeHintWithin (levels + 1) schema = .list (spec.typeHintWithin levels items)) ∨
    ∃ branches branch, alternatives? (spec.resolveSchema schema) = some branches ∧
      branch ∈ branches ∧
        spec.typeHintWithin (levels + 1) schema = spec.typeHintWithin levels branch := by
  rw [typeHintWithin]
  generalize spec.resolveSchema schema = resolved
  split
  · next value values henum => exact .inl ⟨_, List.cons_ne_nil _ _, henum, rfl⟩
  · right
    split
    all_goals try exact .inl (by decide)
    · -- the items of a list
      cases resolved.get? "items" with
      | none =>
        rw [Option.map_none, Option.getD_none]
        exact .inl (by decide)
      | some items => exact .inr (.inl ⟨items, rfl, rfl⟩)
    · -- alternatives, where there are no properties
      split_ifs
      · exact .inl (by decide)
      · split
        · exact .inl (by decide)
        · next branches hbranches =>
          rcases TypeHint.common_cases
            ((branches.filter (schemaType? · ≠ some "null")).map (spec.typeHintWithin levels))
            with hstr | hany | hmem
          · rw [hstr]
            exact .inl (by decide)
          · rw [hany]
            exact .inl (by decide)
          · obtain ⟨branch, hbranch, heq⟩ := List.mem_map.mp hmem
            have hmem := List.mem_of_mem_filter hbranch
            exact .inr (.inr ⟨branches, branch, hbranches, hmem, heq.symm⟩)

/-- Alternatives are a list under one of two keys. -/
theorem exists_key_of_alternatives? {branches : List Document}
    (h : alternatives? schema = some branches) :
    ∃ key ∈ ["oneOf", "anyOf"], schema.get? key = some (.list branches) := by
  obtain ⟨value, hvalue, hitems⟩ := Option.bind_eq_some_iff.mp h
  cases value <;> cases hitems
  cases hone : schema.get? "oneOf" with
  | some first =>
    rw [hone] at hvalue
    exact ⟨"oneOf", by decide, hone.trans hvalue⟩
  | none =>
    rw [hone] at hvalue
    exact ⟨"anyOf", by decide, hvalue⟩

/-- Numbers under a key of a resolved schema are finite. -/
theorem hasFiniteNumbers_of_get?_resolveSchema (hroot : spec.root.HasFiniteNumbers)
    (hschema : schema.HasFiniteNumbers) {key : String} {value : Document}
    (hkey : key ∉ Merge.mergedKeys) (h : (spec.resolveSchema schema).get? key = some value) :
    value.HasFiniteNumbers :=
  (mem_parts_of_get?_resolveSchema hkey h).elim hschema.of_part hroot.of_part

/-- A level more is at most one list more. -/
theorem isHintText_typeHintWithin (hroot : spec.root.HasFiniteNumbers) (levels : Nat)
    (hschema : schema.HasFiniteNumbers) :
    IsHintText levels (spec.typeHintWithin levels schema).render := by
  induction levels generalizing schema with
  | zero => exact .name (s := "Any") (by decide)
  | succ levels ih =>
    rcases spec.typeHintWithin_succ_cases levels schema with ⟨values, hne, henum, heq⟩ | hname |
      ⟨items, hitems, heq⟩ | ⟨branches, branch, halternatives, hbranch, heq⟩
    · obtain ⟨value, hvalue, hlist⟩ := Option.bind_eq_some_iff.mp henum
      cases value <;> cases hlist
      have hfinite := hasFiniteNumbers_of_get?_resolveSchema hroot hschema (by decide) hvalue
      rw [heq, TypeHint.render]
      refine .literal (by simpa using hne) ?_
      intro s hs
      rw [List.map_map] at hs
      obtain ⟨literal, hliteral, rfl⟩ := List.mem_map.mp hs
      exact Literal.isLiteralText_render (hfinite.of_part (mem_parts_of_item hliteral))
    · generalize spec.typeHintWithin (levels + 1) schema = hint at hname
      simp only [List.mem_cons, List.not_mem_nil, or_false] at hname
      rcases hname with rfl | rfl | rfl | rfl | rfl | rfl | rfl
      case inr.inr.inr.inr.inr.inr => exact .list (s := "Any") (.name (by decide))
      all_goals exact .name (by decide)
    · rw [heq]
      exact .list (ih (hasFiniteNumbers_of_get?_resolveSchema hroot hschema (by decide) hitems))
    · obtain ⟨key, hkey, hget⟩ := exists_key_of_alternatives? halternatives
      have hunmerged : ∀ key ∈ ["oneOf", "anyOf"], key ∉ Merge.mergedKeys := by decide
      have hfinite := hasFiniteNumbers_of_get?_resolveSchema hroot hschema (hunmerged key hkey) hget
      rw [heq]
      exact (ih (hfinite.of_part (mem_parts_of_item hbranch))).succ

/-- The type hint of every schema is a text of the grammar, in which at most 17 lists stand in one
another. -/
theorem isHintText_typeHint (spec : Spec) (schema : Document)
    (hroot : spec.root.HasFiniteNumbers) (hschema : schema.HasFiniteNumbers) :
    IsHintText 17 (spec.typeHint schema).render :=
  isHintText_typeHintWithin hroot (maxNesting + 1) hschema

/-- A description with a list of itself, and with a choice of values of all kinds. -/
def treeSpec : Spec := ⟨.object [("components", .object [("schemas", .object [
  ("Tree", .object [("type", .text "array"),
    ("items", .object [("$ref", .text "#/components/schemas/Tree")])]),
  ("Mark", .object [("enum", .list [.null, .bool true, ofInt (-3),
    .number (.float (.finite false 6755399441055744 (-52))), .text "a\n\"b\"",
    .list [ofInt 1]])])])])]⟩

/-- The list of itself is cut off below 17 lists, and the choice of values is one of literals. -/
theorem isHintText_typeHint_treeSpec :
    let tree := Document.object [("$ref", .text "#/components/schemas/Tree")]
    let mark := Document.object [("$ref", .text "#/components/schemas/Mark")]
    treeSpec.root.HasFiniteNumbers ∧ tree.HasFiniteNumbers ∧ mark.HasFiniteNumbers ∧
    (treeSpec.typeHint tree).render
      = String.ofList ((List.replicate 17 "List[".toList).flatten ++ "Any".toList
          ++ List.replicate 17 ']') ∧
    IsHintText 17 (treeSpec.typeHint tree).render ∧
    (treeSpec.typeHint mark).render
      = "Literal[None, True, -3, 1.5, \"a\\n\\\"b\\\"\", \"[1]\"]" ∧
    IsHintText 17 (treeSpec.typeHint mark).render := by
  intro tree mark
  have hroot : treeSpec.root.HasFiniteNumbers := by decide +kernel
  have htree : tree.HasFiniteNumbers := by decide +kernel
  have hmark : mark.HasFiniteNumbers := by decide +kernel
  exact ⟨hroot, htree, hmark, by decide +kernel, treeSpec.isHintText_typeHint tree hroot htree,
    by decide +kernel, treeSpec.isHintText_typeHint mark hroot hmark⟩

end Spec

end ApiTools
