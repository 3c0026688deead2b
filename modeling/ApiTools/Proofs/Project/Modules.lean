import ApiTools.Project
import ApiTools.Proofs.Text.Order
import Mathlib.Data.List.Nodup

/-!
# Tools grouped into modules

`ToolModule.group` puts every tool into the module with the stem for its path.  The invariant is
`IsGrouped`: the modules of the tools so far are named by their stems, in the order in which they
come up, each module holds the tools with its stem, in their order, and no tool is lost or taken
twice.  One more tool keeps it (`isGrouped_insert`), so it holds of a whole list of tools
(`isGrouped_group`).
-/

namespace ApiTools

namespace ToolModule

/-! ### One more tool -/

/-- The modules of the tools: they are named by the stems for the tools, each once and in the order
in which they come up, each holds the tools with its stem, in their order, and together they hold
every tool once. -/
structure IsGrouped (tools : List Tool) (modules : List ToolModule) : Prop where
  stems : modules.map stem = (tools.map fun tool => stemOf tool.httpPath).eraseDups
  groups : ∀ module ∈ modules,
    module.tools = tools.filter fun tool => stemOf tool.httpPath = module.stem
  perm : (modules.flatMap ToolModule.tools).Perm tools

variable {tool : Tool} {tools done : List Tool} {module : ToolModule} {modules : List ToolModule}

theorem IsGrouped.stemOf_eq (h : IsGrouped tools modules) (hmodule : module ∈ modules)
    (htool : tool ∈ module.tools) : stemOf tool.httpPath = module.stem := by
  rw [h.groups module hmodule, List.mem_filter] at htool
  exact of_decide_eq_true htool.2

theorem map_stem_insert (tool : Tool) (modules : List ToolModule) :
    (insert tool modules).map stem
      = if stemOf tool.httpPath ∈ modules.map stem then modules.map stem
        else modules.map stem ++ [stemOf tool.httpPath] := by
  induction modules with
  | nil => rw [List.map_nil, if_neg List.not_mem_nil, insert, List.map_singleton, List.nil_append]
  | cons first rest ih =>
    rw [insert]
    by_cases hfirst : first.stem = stemOf tool.httpPath
    · simp [hfirst, add]
    · rw [if_neg hfirst, List.map_cons, ih]
      by_cases hrest : stemOf tool.httpPath ∈ rest.map stem
      · simp [hrest]
      · rw [if_neg hrest, if_neg (by simpa [Ne.symm hfirst] using hrest)]
        rfl

/-- A module is one of those before with another stem, or the one before with the tool's stem and
the tool at its end, or a new one. -/
theorem mem_insert (hnodup : (modules.map stem).Nodup) (h : module ∈ insert tool modules) :
    (module ∈ modules ∧ module.stem ≠ stemOf tool.httpPath) ∨
      (∃ before ∈ modules, before.stem = stemOf tool.httpPath ∧ module = before.add tool) ∨
      (stemOf tool.httpPath ∉ modules.map stem ∧
        module = ⟨stemOf tool.httpPath, [tool.httpPath], [tool]⟩) := by
  induction modules with
  | nil => exact .inr (.inr ⟨by simp, List.mem_singleton.mp h⟩)
  | cons first rest ih =>
    rw [List.map_cons, List.nodup_cons] at hnodup
    rw [insert] at h
    by_cases hfirst : first.stem = stemOf tool.httpPath
    · rw [if_pos hfirst] at h
      rcases List.mem_cons.mp h with rfl | hrest
      · exact .inr (.inl ⟨first, List.mem_cons_self .., hfirst, rfl⟩)
      · refine .inl ⟨List.mem_cons_of_mem _ hrest, fun hstem => hnodup.1 ?_⟩
        rw [hfirst, ← hstem]
        exact List.mem_map_of_mem hrest
    · rw [if_neg hfirst] at h
      rcases List.mem_cons.mp h with rfl | hrest
      · exact .inl ⟨List.mem_cons_self .., hfirst⟩
      · rcases ih hnodup.2 hrest with ⟨hmem, hstem⟩ | ⟨before, hbefore, hstem⟩ | ⟨hnew, rfl⟩
        · exact .inl ⟨List.mem_cons_of_mem _ hmem, hstem⟩
        · exact .inr (.inl ⟨before, List.mem_cons_of_mem _ hbefore, hstem⟩)
        · exact .inr (.inr ⟨by simpa [Ne.symm hfirst] using hnew, rfl⟩)

/-- One more tool is added to what the modules hold. -/
theorem perm_insert (tool : Tool) (modules : List ToolModule) :
    ((insert tool modules).flatMap ToolModule.tools).Perm
      (modules.flatMap ToolModule.tools ++ [tool]) := by
  induction modules with
  | nil => exact .refl _
  | cons first rest ih =>
    rw [insert]
    by_cases hfirst : first.stem = stemOf tool.httpPath
    · rw [if_pos hfirst, List.flatMap_cons, List.flatMap_cons]
      show (first.tools ++ [tool] ++ _).Perm _
      rw [List.append_assoc, List.append_assoc]
      exact List.perm_append_comm.append_left _
    · rw [if_neg hfirst, List.flatMap_cons, List.flatMap_cons, List.append_assoc]
      exact ih.append_left _

/-- One more tool goes to the end of its module. -/
theorem isGrouped_insert (h : IsGrouped done modules) (tool : Tool) :
    IsGrouped (done ++ [tool]) (insert tool modules) := by
  have hnodup : (modules.map stem).Nodup := h.stems ▸ nodup_eraseDups _
  have hstem : stemOf tool.httpPath ∈ modules.map stem ↔
      stemOf tool.httpPath ∈ done.map fun tool => stemOf tool.httpPath := by
    rw [h.stems, List.mem_eraseDups]
  refine ⟨?_, ?_, (perm_insert tool modules).trans (h.perm.append_right [tool])⟩
  · rw [map_stem_insert, List.map_append, List.map_singleton, eraseDups_concat, h.stems]
    simp only [List.mem_eraseDups]
  · intro module hmodule
    rw [List.filter_append]
    rcases mem_insert hnodup hmodule with ⟨hmem, hother⟩ | ⟨before, hbefore, heq, rfl⟩ | ⟨hnew, rfl⟩
    · rw [h.groups module hmem, List.filter_cons_of_neg (by simpa using Ne.symm hother),
        List.filter_nil, List.append_nil]
    · rw [List.filter_cons_of_pos (by simpa [add] using heq.symm), List.filter_nil]
      exact congrArg (· ++ [tool]) (h.groups before hbefore)
    · -- No tool before has the stem of a new module.
      rw [hstem] at hnew
      have hnone :
          done.filter (fun other => stemOf other.httpPath = stemOf tool.httpPath) = [] := by
        rw [List.filter_eq_nil_iff]
        intro other hother heq
        exact hnew (List.mem_map.mpr ⟨other, hother, by simpa using heq⟩)
      rw [hnone]
      simp

/-! ### A list of tools -/

theorem isGrouped_foldl (h : IsGrouped done modules) (tools : List Tool) :
    IsGrouped (done ++ tools)
      (tools.foldl (fun modules tool => insert tool modules) modules) := by
  induction tools generalizing done modules with
  | nil => rwa [List.append_nil]
  | cons tool rest ih =>
    have hrest := ih (isGrouped_insert h tool)
    rwa [List.append_assoc] at hrest

/-- Grouping names the modules by the stems for the tools and gives each tool to one of them. -/
theorem isGrouped_group (tools : List Tool) : IsGrouped tools (group tools) := by
  have hnone : IsGrouped [] [] := ⟨rfl, fun _ hmodule => absurd hmodule List.not_mem_nil, .refl _⟩
  exact isGrouped_foldl hnone tools

end ToolModule

end ApiTools
