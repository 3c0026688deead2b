import ApiTools.Proofs.Naming.Paths
import ApiTools.Proofs.Naming.Stems
import ApiTools.Proofs.Project.Paths

/-!
# Stems of packages and modules

Packages are named by a title, modules of models by a schema and modules of tools by a path.  The
title and the schema are brought to snake case, and of the path slashes, braces and points are taken
care of; a stem is made of what this gives.  So it has the form of a stem whatever the title, the
schema or the path is, and it is the title, the schema or the path itself exactly where that has the
form already (`isDerivedStem_names`).
-/

namespace ApiTools

namespace Naming

open Text

variable {s lead name raw : String}

/-- The stem that is derived from a name.  It has the form of a stem and is derived from itself; it
keeps the names that have this form, and it can be the name of a module. -/
structure IsDerivedStem (lead name s : String) : Prop where
  form : IsStem s
  again : stem s lead = s
  kept : s = name ↔ IsStem name
  ne_init : s ≠ "__init__"
  segment : Path.IsSegment (s ++ ".py")
  ending : Path.extension? (s ++ ".py") = some "py"

theorem IsStem.ne_init (h : IsStem s) : s ≠ "__init__" := by
  rintro rfl
  obtain ⟨c, rest, hcons, hletter⟩ := h.head
  cases hcons
  cases hletter

/-- A word of small letters is a stem. -/
theorem isStem_of_word (hne : s.toList ≠ []) (h : s.toList.all isAsciiLower = true) :
    IsStem s := by
  rw [List.all_eq_true] at h
  obtain ⟨c, rest, hcons⟩ := List.exists_cons_of_ne_nil hne
  refine ⟨isSnake_iff.mpr (joined_of_forall hne fun d hd => ?_), c, rest, hcons, ?_⟩
  · rw [isSnakeChar, h d hd, Bool.true_or]
  · exact h c (by rw [hcons]; exact List.mem_cons_self ..)

/-- What a stem is made of may differ from the name, but not where the name is a stem. -/
theorem isDerivedStem_stem (hlead : IsStem lead) (hraw : IsStem name → raw = name) :
    IsDerivedStem lead name (stem raw lead) := by
  have hform : IsStem (stem raw lead) := isStem_stem raw hlead
  refine ⟨hform, stem_of_isStem hform lead, ⟨fun h => h ▸ hform, fun h => ?_⟩, hform.ne_init,
    hform.isName.isSegment_append (by decide), hform.isName.extension?_append_py⟩
  rw [hraw h]
  exact stem_of_isStem h lead

theorem moduleChar_of_isIdentifierChar {c : Char} (h : isIdentifierChar c = true) :
    moduleChar c = c := by
  obtain ⟨n, hn, rfl⟩ := exists_eq_ofNat_of_isAscii (isAscii_of_isIdentifierChar h)
  revert n
  decide

/-- A path that is a stem is the name of its module. -/
theorem moduleName_of_isStem (h : IsStem s) : moduleName s = s := by
  have hslash : s.toList.dropWhile (· == '/') = s.toList := by
    refine dropWhile_eq_self fun c hc => ?_
    rw [beq_eq_false_iff_ne]
    rintro rfl
    exact h.isName.no_slash (List.mem_of_head? hc)
  have hmap : s.toList.map moduleChar = s.toList :=
    (List.map_congr_left fun _ hc =>
      moduleChar_of_isIdentifierChar (h.joined.isIdentifierChar_of_mem hc)).trans (List.map_id' _)
  have hchars : lowerChars (((s.toList.dropWhile (· == '/')).filter (!isBrace ·)).map moduleChar)
      = s.toList := by
    rw [hslash, h.joined.filter_isBrace, hmap, h.joined.lowerChars_eq]
  rcases moduleName_cases s hchars with ⟨hnone, -⟩ | hname
  · exact absurd hnone h.joined.ne_nil
  · rw [hname, String.ofList_toList]

end Naming

open Naming

/-- The stem of the packages for a title, that of the module for a schema and that of the module for
a path are nonempty runs of small letters and digits, joined by single underscores, with a letter
first.  So they name modules, and none of them the marker of a package. -/
theorem isDerivedStem_names (spec : Spec) (settings : Settings) (schemaName path : String) :
    IsDerivedStem "api" (ProjectNames.ofSpec spec settings).title
      (ProjectNames.ofSpec spec settings).name ∧
    IsDerivedStem "model" schemaName (ProjectPlan.modelStem schemaName) ∧
    IsDerivedStem "path" path (ToolModule.stemOf path) := by
  have hsnake : ∀ name, IsStem name → snakeCase name = name :=
    fun name h => snakeCase_of_isSnake (.inr h.runs)
  have hapi : IsStem "api" := isStem_of_word (by decide) (by decide)
  have hmodel : IsStem "model" := isStem_of_word (by decide) (by decide)
  have hpath : IsStem "path" := isStem_of_word (by decide) (by decide)
  refine ⟨?_, isDerivedStem_stem hmodel (hsnake schemaName),
    isDerivedStem_stem hpath moduleName_of_isStem⟩
  unfold ProjectNames.ofSpec
  dsimp only
  exact isDerivedStem_stem hapi (hsnake _)

end ApiTools
