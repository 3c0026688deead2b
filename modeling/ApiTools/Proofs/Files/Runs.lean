import ApiTools.Failure

/-!
# Running actions on a tree

Actions are run on a tree one after the other, each on the tree that the one before it left
(`run_bind_eq`).  Of actions that may fail, what succeeds in two steps succeeds in each of them
(`run_bind_ok`), and what follows a success is run on the tree that is left (`run_bind_of_ok`).
-/

namespace ApiTools

variable {α β : Type} {tree between after : FileTree}

/-- A run goes on with the answer of its first step, on the tree this leaves. -/
theorem run_bind_eq {step : StateM FileTree α} {answer : α}
    (h : step.run tree = (answer, between)) (next : α → StateM FileTree β) :
    (step >>= next).run tree = (next answer).run between := by
  rw [StateT.run_bind, h]
  rfl

/-- What succeeds in two steps succeeds in each of them. -/
theorem run_bind_ok {action : ExceptT Failure (StateM FileTree) α}
    {next : α → ExceptT Failure (StateM FileTree) β} {result : β}
    (h : (action >>= next).run.run tree = (.ok result, after)) :
    ∃ value between, action.run.run tree = (.ok value, between) ∧
      (next value).run.run between = (.ok result, after) := by
  rw [ExceptT.run_bind, StateT.run_bind] at h
  rcases haction : action.run.run tree with ⟨cause | value, between⟩
  · rw [haction] at h
    cases h
  · rw [haction] at h
    exact ⟨value, between, rfl, h⟩

/-- What succeeds with another result succeeds with its own one. -/
theorem run_map_ok {action : ExceptT Failure (StateM FileTree) α} {f : α → β} {result : β}
    (h : (f <$> action).run.run tree = (.ok result, after)) :
    ∃ value, action.run.run tree = (.ok value, after) ∧ f value = result := by
  rw [map_eq_pure_bind] at h
  obtain ⟨value, between, haction, hpure⟩ := run_bind_ok h
  cases hpure
  exact ⟨value, haction, rfl⟩

/-- What succeeds has a result. -/
theorem exists_run_of_isOk {action : ExceptT Failure (StateM FileTree) α}
    (h : (action.run.run tree).1.isOk = true) :
    ∃ result after, action.run.run tree = (.ok result, after) := by
  rcases haction : action.run.run tree with ⟨cause | result, after⟩
  · rw [haction] at h
    cases h
  · exact ⟨result, after, rfl⟩

/-- After a first step that succeeds the second one is run. -/
theorem run_bind_of_ok {action : ExceptT Failure (StateM FileTree) α} {value : α}
    (h : action.run.run tree = (.ok value, between))
    (next : α → ExceptT Failure (StateM FileTree) β) :
    (action >>= next).run.run tree = (next value).run.run between := by
  rw [ExceptT.run_bind]
  exact run_bind_eq h _

/-- An action that cannot fail is run before what follows. -/
theorem run_liftM_bind {m : Type → Type} [Monad m] [LawfulMonad m] (action : m α)
    (next : α → ExceptT Failure m β) :
    ((liftM action : ExceptT Failure m α) >>= next).run = action >>= fun a => (next a).run :=
  ExceptT.run_bind_lift action next

theorem run_lift_bind (action : StateM FileTree α)
    (next : α → ExceptT Failure (StateM FileTree) β) (tree : FileTree) :
    ((liftM action : ExceptT Failure (StateM FileTree) α) >>= next).run.run tree
      = (next (action.run tree).1).run.run (action.run tree).2 := rfl

theorem FileStore.run_attempt (action : StateM FileTree (Except FileError α)) (tree : FileTree) :
    (attempt action : ExceptT Failure (StateM FileTree) α).run.run tree =
      match action.run tree with
      | (.ok a, after) => (.ok a, after)
      | (.error cause, after) => (.error (.file cause), after) := by
  unfold attempt
  rw [run_lift_bind]
  rcases action.run tree with ⟨cause | a, after⟩
  · rfl
  · rfl

theorem FileStore.run_attempt_read {path content : String} (h : tree.read path = .ok content) :
    (attempt (read path) : ExceptT Failure (StateM FileTree) String).run.run tree
      = (.ok content, tree) := by
  have hread : (read path : StateM FileTree (Except FileError String)).run tree
      = (.ok content, tree) := congrArg (·, tree) h
  rw [run_attempt, hread]

theorem FileStore.run_attempt_list {path : String} {entries : List (String × Bool)}
    (h : tree.list path = .ok entries) :
    (attempt (list path) : ExceptT Failure (StateM FileTree) (List (String × Bool))).run.run tree
      = (.ok entries, tree) := by
  have hlist : (list path : StateM FileTree (Except FileError (List (String × Bool)))).run tree
      = (.ok entries, tree) := congrArg (·, tree) h
  rw [run_attempt, hlist]

/-- Actions that leave the tree are run one after the other. -/
theorem run_mapM_of_ok {action : α → ExceptT Failure (StateM FileTree) β} {value : α → β}
    {items : List α}
    (h : ∀ item ∈ items, (action item).run.run tree = (.ok (value item), tree)) :
    (items.mapM action).run.run tree = (.ok (items.map value), tree) := by
  induction items with
  | nil => rfl
  | cons item rest ih =>
    rw [List.forall_mem_cons] at h
    rw [List.mapM_cons, run_bind_of_ok h.1, run_bind_of_ok (ih h.2)]
    rfl

end ApiTools
