import ApiTools.Proofs.Document.Frame
import ApiTools.Proofs.Document.Nodes
import Mathlib.Data.List.Nodup
import Mathlib.Data.List.ProdSigma

/-!
# Operations of an API description

Where every path is written once (`Spec.HasDistinctPaths`), each operation stands where its path and
method say (`node?_of_mem_operations`).  The operations are then the paths and methods at which an
object stands, in order (`map_key_operations`), and no two have the same (`nodup_operations`).
-/

namespace ApiTools

namespace Spec

/-- Every path is written once. -/
def HasDistinctPaths (spec : Spec) : Prop := (Members.keys (spec.paths?.getD [])).Nodup

instance (spec : Spec) : Decidable spec.HasDistinctPaths :=
  inferInstanceAs (Decidable (Members.keys (spec.paths?.getD [])).Nodup)

/-! ### Membership -/

variable {spec : Spec} {op : Operation} {path : String} {item : Document}

theorem mem_operationsOf : op ∈ operationsOf path item ↔
    op.path = path ∧ op.pathItem = item ∧ item.get? op.method.name = some op.node ∧
      op.node.isObject = true := by
  unfold operationsOf
  rw [List.mem_filterMap]
  constructor
  · rintro ⟨method, -, hop⟩
    cases hnode : item.get? method.name with
    | none => simp [hnode] at hop
    | some node =>
      simp only [hnode, Option.ite_none_right_eq_some, Option.some.injEq] at hop
      obtain ⟨hobject, rfl⟩ := hop
      exact ⟨rfl, rfl, hnode, hobject⟩
  · obtain ⟨path', method, node, item'⟩ := op
    rintro ⟨rfl, rfl, hnode, hobject⟩
    refine ⟨method, Method.mem_all method, ?_⟩
    simp only at hnode hobject
    simp [hnode, hobject]

theorem mem_operations : op ∈ spec.operations ↔
    (op.path, op.pathItem) ∈ spec.paths?.getD [] ∧
      op.pathItem.get? op.method.name = some op.node ∧ op.node.isObject = true := by
  unfold operations
  rw [List.mem_flatMap]
  constructor
  · rintro ⟨⟨path, item⟩, hmem, hop⟩
    obtain ⟨rfl, rfl, hnode, hobject⟩ := mem_operationsOf.mp hop
    exact ⟨hmem, hnode, hobject⟩
  · rintro ⟨hmem, hnode, hobject⟩
    exact ⟨_, hmem, mem_operationsOf.mpr ⟨rfl, rfl, hnode, hobject⟩⟩

/-! ### Where an operation stands -/

/-- What a path item holds stands below its path. -/
theorem node?_entry {entry : String × Document} (distinct : spec.HasDistinctPaths)
    (h : entry ∈ spec.paths?.getD []) (name : String) :
    spec.root.node? [.key "paths", .key entry.1, .key name] = entry.2.get? name := by
  unfold HasDistinctPaths at distinct
  unfold paths? at h distinct
  rcases Document.getMembers?_cases spec.root "paths" with hnone | ⟨ms, paths, hroot, hpaths⟩
  · simp [hnone] at h
  rw [hroot, Document.getMembers?_object hpaths, Option.getD_some] at h distinct
  have hitem := Members.get?_of_mem distinct h
  obtain ⟨path, item⟩ := entry
  simp only [hroot, Document.node?, Document.child?, hpaths, hitem, Option.bind_some]
  cases item with
  | object members => exact Option.bind_fun_some (Members.get? members name)
  | _ => rfl

/-- An operation stands at its path and method. -/
theorem node?_of_mem_operations (distinct : spec.HasDistinctPaths) (h : op ∈ spec.operations) :
    spec.root.node? [.key "paths", .key op.path, .key op.method.name] = some op.node := by
  obtain ⟨hmem, hnode, -⟩ := mem_operations.mp h
  exact (node?_entry distinct hmem op.method.name).trans hnode

/-- A parameter of an operation stands at its position. -/
theorem node?_parameter {position : Nat} {parameter : Document}
    (h : op.parameters[position]? = some parameter) :
    op.node.node? [.key "parameters", .index position] = some parameter :=
  Document.node?_item_iff.mpr h

/-! ### The order of the operations -/

/-- Does an object stand at the path and the method? -/
def describes (spec : Spec) (key : String × Method) : Bool :=
  ((spec.root.node? [.key "paths", .key key.1, .key key.2.name]).map Document.isObject).getD false

theorem map_key_operationsOf (path : String) (item : Document) :
    (operationsOf path item).map (fun op => (op.path, op.method)) =
      (Method.all.map (Prod.mk path)).filter fun key =>
        ((item.get? key.2.name).map Document.isObject).getD false := by
  unfold operationsOf
  generalize Method.all = methods
  induction methods with
  | nil => rfl
  | cons method rest ih =>
    rw [List.map_cons, List.filter_cons, ← ih, List.filterMap_cons]
    cases item.get? method.name with
    | none => rfl
    | some node => by_cases hobject : node.isObject <;> simp [hobject]

/-- The operations are the paths and methods at which an object stands, path after path and with
the methods of each in their order. -/
theorem map_key_operations (distinct : spec.HasDistinctPaths) :
    spec.operations.map (fun op => (op.path, op.method)) =
      ((Members.keys (spec.paths?.getD [])).product Method.all).filter spec.describes := by
  unfold operations List.product Members.keys
  rw [List.map_flatMap, List.flatMap_map, List.filter_flatMap]
  refine List.flatMap_congr fun entry hentry => ?_
  rw [map_key_operationsOf]
  refine List.filter_congr fun key hkey => ?_
  obtain ⟨method, -, rfl⟩ := List.mem_map.mp hkey
  unfold describes
  rw [node?_entry distinct hentry]

/-- No two operations have the same path and the same method. -/
theorem nodup_operations (distinct : spec.HasDistinctPaths) :
    (spec.operations.map fun op => (op.path, op.method)).Nodup := by
  rw [map_key_operations distinct]
  exact (List.Nodup.product distinct Method.all_nodup).filter _

end Spec

end ApiTools
