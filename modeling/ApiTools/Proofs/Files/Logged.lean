import ApiTools.Files.Documents
import ApiTools.Proofs.Files.Store
import Mathlib.Control.Monad.Writer

/-!
# Rehearsals

A `Logged` action on a tree of files keeps a log of the changes that it tries, so that it can be told
whether there were any, and whether all of them succeeded.  An action `IsQuiet` where it tries none.
Of two actions one `Foretells` the other where both end in the same way whenever the other one makes
all of its changes.  The rules for the two follow the actions: `Foretells.bind` for one action after
another, `Foretells.skip` for a change that is left out, `Foretells.foldlM` for a list of actions.
-/

namespace ApiTools

/-- Actions on a tree of files, with the answers to the changes that are tried, in order. -/
abbrev Logged := WriterT (List (Except FileError Unit)) (StateM FileTree)

variable {α β γ δ ι : Type}

namespace Logged

/-- What the action answers. -/
def answer (action : Logged α) (tree : FileTree) : α := (StateT.run action.run tree).1.1

/-- The answers to the changes that the action tries. -/
def changes (action : Logged α) (tree : FileTree) : List (Except FileError Unit) :=
  (StateT.run action.run tree).1.2

/-- The tree that the action leaves. -/
def after (action : Logged α) (tree : FileTree) : FileTree := (StateT.run action.run tree).2

/-- Does the action make every change that it tries? -/
def AllWritten (action : Logged α) (tree : FileTree) : Prop :=
  ∀ change ∈ action.changes tree, change = .ok ()

instance (action : Logged α) (tree : FileTree) : Decidable (action.AllWritten tree) :=
  List.decidableBAll _ _

/-- Looks at the tree. -/
def look (action : StateM FileTree α) : Logged α := liftM action

/-- Tries a change of the tree, and notes the answer. -/
def change (action : StateM FileTree (Except FileError Unit)) : Logged (Except FileError Unit) :=
  WriterT.mk ((fun answer => (answer, [answer])) <$> action)

/-- The files of a tree, with a log. -/
instance : FileStore Logged where
  read path := look (FileStore.read path)
  write path content := change (FileStore.write path content)
  createDirectories path := change (FileStore.createDirectories path)
  rename source target := change (FileStore.rename source target)
  remove path := change (FileStore.remove path)
  isPresent path := look (FileStore.isPresent path)
  list path := look (FileStore.list path)

theorem eq_of_forall {action other : Logged α}
    (hanswer : ∀ tree, action.answer tree = other.answer tree)
    (hchanges : ∀ tree, action.changes tree = other.changes tree)
    (hafter : ∀ tree, action.after tree = other.after tree) : action = other :=
  funext fun tree => Prod.ext (Prod.ext (hanswer tree) (hchanges tree)) (hafter tree)

instance : LawfulMonad Logged := by
  refine LawfulMonad.mk' Logged (fun _ => rfl) (fun _ _ => rfl) ?assoc (fun _ _ => rfl)
    (fun _ _ => rfl) (fun _ _ => rfl) ?comp (fun _ _ => rfl)
  case assoc =>
    exact fun _ _ _ =>
      eq_of_forall (fun _ => rfl) (fun _ => List.append_assoc _ _ _) fun _ => rfl
  case comp =>
    exact fun _ _ => eq_of_forall (fun _ => rfl) (fun _ => List.append_nil _) fun _ => rfl

section Bind

variable (action : Logged α) (next : α → Logged β) (tree : FileTree)

theorem answer_bind :
    (action >>= next).answer tree = (next (action.answer tree)).answer (action.after tree) := rfl

theorem after_bind :
    (action >>= next).after tree = (next (action.answer tree)).after (action.after tree) := rfl

theorem changes_bind :
    (action >>= next).changes tree
      = action.changes tree ++ (next (action.answer tree)).changes (action.after tree) := rfl

theorem allWritten_bind :
    (action >>= next).AllWritten tree ↔
      action.AllWritten tree ∧ (next (action.answer tree)).AllWritten (action.after tree) := by
  unfold AllWritten
  rw [changes_bind, List.forall_mem_append]

end Bind

theorem run_lift_bind (action : Logged α) (next : α → ExceptT Failure Logged β) :
    ((liftM action : ExceptT Failure Logged α) >>= next).run
      = action >>= fun a => (next a).run := rfl

theorem answer_map (f : α → β) (action : Logged α) (tree : FileTree) :
    (f <$> action).answer tree = f (action.answer tree) := rfl

/-! ### Actions that change nothing -/

/-- The action leaves the tree as it is, and does not even try to change it. -/
def IsQuiet (action : Logged α) : Prop :=
  ∀ tree, action.after tree = tree ∧ action.changes tree = []

theorem isQuiet_pure (a : α) : IsQuiet (pure a : Logged α) := fun _ => ⟨rfl, rfl⟩

theorem isQuiet_read (path : String) :
    IsQuiet (FileStore.read path : Logged (Except FileError String)) := fun _ => ⟨rfl, rfl⟩

theorem IsQuiet.bind {action : Logged α} {next : α → Logged β} (h : IsQuiet action)
    (hnext : ∀ a, IsQuiet (next a)) : IsQuiet (action >>= next) := by
  intro tree
  obtain ⟨hafter, hchanges⟩ := h tree
  rw [after_bind, changes_bind, hafter, hchanges, List.nil_append]
  exact hnext _ tree

section Except

variable {action : ExceptT Failure Logged α} {next : α → ExceptT Failure Logged β}

theorem IsQuiet.bind_run (h : IsQuiet action.run) (hnext : ∀ a, IsQuiet (next a).run) :
    IsQuiet (action >>= next).run := by
  rw [ExceptT.run_bind]
  refine h.bind fun answer => ?_
  cases answer with
  | error cause => exact isQuiet_pure _
  | ok a => exact hnext a

theorem IsQuiet.lift_bind_run {action : Logged α} (h : IsQuiet action)
    (hnext : ∀ a, IsQuiet (next a).run) :
    IsQuiet ((liftM action : ExceptT Failure Logged α) >>= next).run :=
  bind_run (fun tree => h tree) hnext

theorem isQuiet_foldlM {step : α → ι → ExceptT Failure Logged α}
    (h : ∀ a item, IsQuiet (step a item).run) (items : List ι) (start : α) :
    IsQuiet (items.foldlM step start).run := by
  induction items generalizing start with
  | nil => exact isQuiet_pure _
  | cons item rest ih => exact (h start item).bind_run ih

end Except

/-! ### Changes that succeed -/

/-- Where every change is made, the action succeeds, and `P` holds. -/
def Succeeds (P : Prop) (action : Logged (Except FileError Unit)) : Prop :=
  ∀ tree, action.AllWritten tree → action.answer tree = .ok () ∧ P

theorem succeeds_pure : Succeeds True (pure (.ok ())) := fun _ _ => ⟨rfl, trivial⟩

theorem succeeds_change {P : Prop} {action : StateM FileTree (Except FileError Unit)}
    (h : ∀ tree, (action.run tree).1 = .ok () → P) : Succeeds P (change action) := by
  intro tree hall
  have hanswer : (action.run tree).1 = .ok () := hall _ (List.mem_singleton_self _)
  exact ⟨hanswer, h tree hanswer⟩

theorem succeeds_createDirectories (path : String) :
    Succeeds True (FileStore.createDirectories path) := succeeds_change fun _ _ => trivial

theorem succeeds_createParent (path : String) : Succeeds True (FileStore.createParent path) := by
  unfold FileStore.createParent
  split
  · split
    · exact succeeds_pure
    · exact succeeds_createDirectories _
  · exact succeeds_pure

/-- A file is written to a path that ends in a name. -/
theorem succeeds_write (path content : String) :
    Succeeds (∃ name, Path.fileName? path = some name) (FileStore.write path content) := by
  refine succeeds_change fun tree hanswer => ?_
  rcases hwrite : tree.write path content with cause | after
  · have hrun : (FileStore.write path content : StateM FileTree (Except FileError Unit)).run tree
        = (.error cause, tree) := FileStore.run_update_of_error hwrite
    rw [hrun] at hanswer
    cases hanswer
  · exact FileStore.exists_fileName?_of_write hwrite

/-- What follows a change has to succeed only where the change does. -/
theorem Succeeds.bind {P Q : Prop} {action : Logged (Except FileError Unit)}
    {next : Except FileError Unit → Logged (Except FileError Unit)} (h : Succeeds P action)
    (hnext : Succeeds Q (next (.ok ()))) : Succeeds Q (action >>= next) := by
  intro tree hall
  rw [allWritten_bind] at hall
  obtain ⟨hanswer, -⟩ := h tree hall.1
  rw [hanswer] at hall
  rw [answer_bind, hanswer]
  exact hnext _ hall.2

theorem succeeds_writeAtomic (path content : String) :
    Succeeds True (FileStore.writeAtomic path content) := by
  have hrename : Succeeds True (FileStore.rename (FileStore.stagingPath path) path) :=
    succeeds_change fun _ _ => trivial
  exact (succeeds_write _ content).bind (hrename.bind succeeds_pure)

/-- Where every change is made, the action succeeds with an answer of which `Q` holds. -/
def Settles (Q : α → Prop) (action : ExceptT Failure Logged α) : Prop :=
  ∀ tree, action.run.AllWritten tree → ∃ a, action.run.answer tree = .ok a ∧ Q a

section Settles

variable {Q : α → Prop} {S : β → Prop} {action : ExceptT Failure Logged α}
  {next : α → ExceptT Failure Logged β}

theorem settles_pure {a : α} (h : Q a) : Settles Q (pure a) := fun _ _ => ⟨a, rfl, h⟩

theorem Settles.bind (h : Settles Q action) (hnext : ∀ a, Q a → Settles S (next a)) :
    Settles S (action >>= next) := by
  intro tree hall
  rw [ExceptT.run_bind, allWritten_bind] at hall
  obtain ⟨a, hanswer, ha⟩ := h tree hall.1
  rw [hanswer] at hall
  rw [ExceptT.run_bind, answer_bind, hanswer]
  exact hnext a ha _ hall.2

theorem settles_attempt {P : Prop} {change : Logged (Except FileError Unit)}
    (h : Succeeds P change) : Settles (fun _ => P) (FileStore.attempt change) := by
  intro tree hall
  unfold FileStore.attempt at hall ⊢
  rw [run_lift_bind, allWritten_bind] at hall
  obtain ⟨hanswer, hP⟩ := h tree hall.1
  rw [run_lift_bind, answer_bind, hanswer]
  exact ⟨(), rfl, hP⟩

/-- A file is saved to a path that ends in a name. -/
theorem settles_save (path content : String) :
    Settles (fun _ => ∃ name, Path.fileName? path = some name) (FileStore.save path content) :=
  (settles_attempt (succeeds_createParent path)).bind fun _ _ =>
    settles_attempt (succeeds_write path content)

end Settles

/-! ### Actions that foretell others -/

/-- Both actions succeed, with answers that are related, or both fail for the same reason. -/
inductive SameEnd (R : α → β → Prop) : Except Failure α → Except Failure β → Prop
  | ok {a : α} {b : β} (h : R a b) : SameEnd R (.ok a) (.ok b)
  | error (cause : Failure) : SameEnd R (.error cause) (.error cause)

/-- Does the first action end as the second one does, on whatever tree, where the second one makes
every change that it tries? -/
def Foretells (R : α → β → Prop) (rehearsal : ExceptT Failure Logged α)
    (action : ExceptT Failure Logged β) : Prop :=
  ∀ tree tree', action.run.AllWritten tree' →
    SameEnd R (rehearsal.run.answer tree) (action.run.answer tree')

namespace Foretells

variable {R : α → β → Prop} {S : γ → δ → Prop} {rehearsal : ExceptT Failure Logged α}
  {action : ExceptT Failure Logged β}

protected theorem pure {a : α} {b : β} (h : R a b) : Foretells R (pure a) (pure b) :=
  fun _ _ _ => .ok h

protected theorem throw (cause : Failure) : Foretells R (throw cause) (throw cause) :=
  fun _ _ _ => .error cause

/-- What one action after another does is foretold step by step. -/
protected theorem bind {next : α → ExceptT Failure Logged γ} {next' : β → ExceptT Failure Logged δ}
    (h : Foretells R rehearsal action) (hnext : ∀ a b, R a b → Foretells S (next a) (next' b)) :
    Foretells S (rehearsal >>= next) (action >>= next') := by
  intro tree tree' hall
  rw [ExceptT.run_bind, allWritten_bind] at hall
  rw [ExceptT.run_bind, ExceptT.run_bind, answer_bind, answer_bind]
  have hend := h tree tree' hall.1
  generalize rehearsal.run.answer tree = result, action.run.answer tree' = result' at hend hall
  cases hend with
  | ok hab => exact hnext _ _ hab _ _ hall.2
  | error cause => exact .error cause

/-- What succeeds where every change is made can be left out. -/
theorem skip {Q : β → Prop} (h : Settles Q action) {next : β → ExceptT Failure Logged δ}
    {rehearsal : ExceptT Failure Logged γ} (hnext : ∀ b, Q b → Foretells S rehearsal (next b)) :
    Foretells S rehearsal (action >>= next) := by
  intro tree tree' hall
  rw [ExceptT.run_bind, allWritten_bind] at hall
  obtain ⟨b, hanswer, hb⟩ := h tree' hall.1
  -- The rest is run on another tree, which is why nothing is said of the trees.
  rw [hanswer] at hall
  rw [ExceptT.run_bind, answer_bind, hanswer]
  exact hnext b hb tree _ hall.2

theorem of_settles {Q : β → Prop} (h : Settles Q action) {a : α} (ha : ∀ b, Q b → R a b) :
    Foretells R (pure a) action := by
  intro tree tree' hall
  obtain ⟨b, hanswer, hb⟩ := h tree' hall
  rw [hanswer]
  exact .ok (ha b hb)

theorem foldlM {R : α → α → Prop} {step step' : α → ι → ExceptT Failure Logged α}
    (h : ∀ a b item, R a b → Foretells R (step a item) (step' b item)) (items : List ι)
    {start start' : α} (hstart : R start start') :
    Foretells R (items.foldlM step start) (items.foldlM step' start') := by
  induction items generalizing start start' with
  | nil => exact .pure hstart
  | cons item rest ih => exact (h start start' item hstart).bind fun _ _ hab => ih hab

end Foretells

/-- After a quiet action that both take on the same tree, the first one ends as the second one does
where the rest foretells the rest. -/
theorem IsQuiet.sameEnd_bind {S : γ → δ → Prop} {action : ExceptT Failure Logged α}
    {next : α → ExceptT Failure Logged γ} {next' : α → ExceptT Failure Logged δ}
    (h : IsQuiet action.run) (hnext : ∀ a, Foretells S (next a) (next' a)) {tree : FileTree}
    (hall : (action >>= next').run.AllWritten tree) :
    SameEnd S ((action >>= next).run.answer tree) ((action >>= next').run.answer tree) := by
  rw [ExceptT.run_bind, allWritten_bind, (h tree).1] at hall
  rw [ExceptT.run_bind, ExceptT.run_bind, answer_bind, answer_bind, (h tree).1]
  generalize action.run.answer tree = result at hall
  cases result with
  | error cause => exact .error cause
  | ok a => exact hnext a tree tree hall.2

end Logged

end ApiTools
