import ApiTools.Proofs.Naming.Names
import ApiTools.Proofs.Text.Placeholders
import ApiTools.Proofs.Tool.Arguments

/-!
# The path of a tool

The path of a tool is the path of its operation with the names of arguments for those of parameters.
The placeholders are replaced for one parameter after the other, each time in the text that the
ones before it have left.  This is a replacement at once exactly where no placeholder of the path
gets the name of a parameter that is listed later (`Spec.replacedAtOnce_formattedPath_iff`), and
then the order of the parameters does not matter.  A parameter that is called like the argument for
another one is the exception (`Spec.not_replacedAtOnce_formattedPath`).
-/

namespace ApiTools

open Text

namespace Spec

variable {spec : Spec} {op : Operation} {tool : Tool} {parts after : ToolParts}

/-- The name of a parameter in the path. -/
def pathName? (parameter : Document) : Option String :=
  if parameter.getText? "in" = some "path" then parameter.getText? "name" else none

/-- The names of the parameters in the path of an operation, in order. -/
def pathNames (spec : Spec) (op : Operation) : List String :=
  (spec.mergedParameters op).filterMap pathName?

/-- The name of the argument for a parameter in the path. -/
def pathArgumentName (name : String) : String := "path_" ++ Naming.identifier name

/-- The placeholder of each name, with the placeholder of the argument for it. -/
def pathTable (names : List String) : List (List Char × List Char) :=
  names.map fun name => ((placeholder name).toList, (placeholder (pathArgumentName name)).toList)

/-- Is no placeholder of the path given a name that is listed after its own? -/
def IsCaptureFree (path : String) (names : List String) : Prop :=
  names.Pairwise fun earlier later =>
    (placeholder earlier).toList <:+: path.toList → later ≠ pathArgumentName earlier

/-! ### Names as characters -/

/-- The characters of the name of an argument. -/
def pathArgumentChars (name : List Char) : List Char :=
  "path_".toList ++ name.map Naming.identifierChar

theorem toList_placeholder (name : String) : (placeholder name).toList = braced name.toList := by
  simp [placeholder, braced]

theorem toList_pathArgumentName (name : String) :
    (pathArgumentName name).toList = pathArgumentChars name.toList := by
  simp [pathArgumentName, pathArgumentChars, Naming.identifier]

theorem isBraceless_pathArgumentChars (name : List Char) :
    IsBraceless (pathArgumentChars name) := by
  have hidentifier : ∀ c : Char, isIdentifierChar c = true → Naming.isBrace c = false := by
    intro c hc
    by_contra hbrace
    simp only [Naming.isBrace, Bool.not_eq_false, Bool.or_eq_true, beq_iff_eq] at hbrace
    rcases hbrace with rfl | rfl <;> cases hc
  have hlead : IsBraceless "path_".toList := by decide
  unfold IsBraceless pathArgumentChars
  rw [List.forall_mem_append, List.forall_mem_map]
  exact ⟨hlead, fun c _ => hidentifier _ (Naming.isIdentifierChar_identifierChar c)⟩

theorem length_lt_pathArgumentChars (name : List Char) :
    name.length < (pathArgumentChars name).length := by
  have hlength : (pathArgumentChars name).length = name.length + 5 := by simp [pathArgumentChars]
  omega

theorem pathTable_eq (names : List String) :
    pathTable names = bracedTable pathArgumentChars (names.map String.toList) := by
  unfold pathTable bracedTable
  rw [List.map_map]
  refine List.map_congr_left fun name _ => ?_
  rw [toList_placeholder, toList_placeholder, toList_pathArgumentName]
  rfl

/-! ### One parameter after the other -/

/-- One more parameter replaces its placeholder, where it is one in the path. -/
theorem formattedPath_addToolParameter {parameter : Document}
    (h : spec.addToolParameter parts parameter = some after) :
    after.formattedPath = (pathName? parameter).elim parts.formattedPath fun name =>
      Text.replace parts.formattedPath (placeholder name) (placeholder (pathArgumentName name)) := by
  unfold pathName?
  rcases addToolParameter_cases h with
    ⟨rfl, hunnamed | helsewhere⟩ | ⟨name, hname, ⟨hin, rfl⟩ | ⟨hin, rfl⟩ | ⟨hin, found, -, rfl⟩⟩
  · rw [hunnamed, ite_self]
    rfl
  · rw [if_neg (helsewhere "path" (by simp))]
    rfl
  · rw [if_pos hin, hname]
    rfl
  · rw [if_neg (by simp [hin])]
    rfl
  · rw [if_neg (by simp [hin])]
    rfl

/-- A run over the parameters replaces for one name after the other. -/
theorem formattedPath_foldlM {parameters : List Document}
    (h : parameters.foldlM spec.addToolParameter parts = some after) :
    after.formattedPath.toList
      = ((parameters.filterMap pathName?).map String.toList).foldl (fun cs name =>
          replaceFrom (braced name) (braced (pathArgumentChars name)) 0 cs)
        parts.formattedPath.toList := by
  induction parameters generalizing parts with
  | nil =>
    cases h
    rfl
  | cons parameter rest ih =>
    rw [List.foldlM_cons] at h
    obtain ⟨next, hnext, h⟩ := Option.bind_eq_some_iff.mp h
    have hstep := formattedPath_addToolParameter hnext
    rw [ih h, hstep]
    cases hname : pathName? parameter with
    | none => rw [List.filterMap_cons_none hname, Option.elim_none]
    | some name =>
      rw [List.filterMap_cons_some hname, Option.elim_some, List.map_cons, List.foldl_cons,
        Text.replace, String.toList_ofList, toList_placeholder, toList_placeholder,
        toList_pathArgumentName]

theorem formattedPath_of_tool? (h : spec.tool? op = some tool) :
    tool.formattedPath.toList
      = ((spec.pathNames op).map String.toList).foldl (fun cs name =>
          replaceFrom (braced name) (braced (pathArgumentChars name)) 0 cs) op.path.toList := by
  obtain ⟨parts, body, hparts, -, rfl⟩ := exists_of_tool? h
  exact formattedPath_foldlM hparts

/-! ### At once -/

/-- Are the names free of braces? -/
def AreBraceless (names : List String) : Prop := ∀ name ∈ names, IsBraceless name.toList

instance (names : List String) : Decidable (AreBraceless names) :=
  List.decidableBAll (fun name : String => IsBraceless name.toList) names

/-- The path of a tool is a replacement at once where no placeholder is given the name of a later
parameter. -/
theorem replacedAtOnce_iff_isCaptureFree (h : spec.tool? op = some tool)
    (hnames : AreBraceless (spec.pathNames op)) :
    ReplacedAtOnce (pathTable (spec.pathNames op)) op.path.toList tool.formattedPath.toList ↔
      IsCaptureFree op.path (spec.pathNames op) := by
  have hbraceless : ∀ name ∈ (spec.pathNames op).map String.toList, IsBraceless name :=
    List.forall_mem_map.mpr hnames
  rw [pathTable_eq, formattedPath_of_tool? h, replacedAtOnce_foldl_iff length_lt_pathArgumentChars
    isBraceless_pathArgumentChars hbraceless, IsCaptureFree, List.pairwise_map]
  simp only [toList_placeholder, ← toList_pathArgumentName, ne_eq, String.toList_inj]

/-- There is one way to replace at once, and it does not depend on the order of the names. -/
theorem replacedAtOnce_unique {names names' : List String} {path text text' : List Char}
    (hnames : AreBraceless names) (hsame : ∀ name, name ∈ names' ↔ name ∈ names)
    (h : ReplacedAtOnce (pathTable names) path text)
    (h' : ReplacedAtOnce (pathTable names') path text') : text' = text := by
  have hbraceless : ∀ name ∈ names.map String.toList, IsBraceless name :=
    List.forall_mem_map.mpr hnames
  have hbraceless' : ∀ name ∈ names'.map String.toList, IsBraceless name :=
    List.forall_mem_map.mpr fun name hname => hnames name ((hsame name).mp hname)
  have hmem : ∀ name, name ∈ names'.map String.toList ↔ name ∈ names.map String.toList := by
    intro name
    simp only [List.mem_map, hsame]
  rw [pathTable_eq, replacedAtOnce_iff hbraceless] at h
  rw [pathTable_eq, replacedAtOnce_iff hbraceless'] at h'
  simp only [hmem] at h'
  rw [h, h']

/-- Where no name of a parameter in the path has a brace, the path of a tool is the path of its
operation with all placeholders of these names replaced at once by those of the arguments, exactly
where no placeholder of the path is given the name of a parameter that is listed later.  Then any
operation with the same path and the same names, in whatever order, has the same path too, where it
is free of captures as well. -/
theorem replacedAtOnce_formattedPath_iff (h : spec.tool? op = some tool)
    (hnames : AreBraceless (spec.pathNames op)) :
    (ReplacedAtOnce (pathTable (spec.pathNames op)) op.path.toList tool.formattedPath.toList ↔
      IsCaptureFree op.path (spec.pathNames op)) ∧
    ∀ {other : Spec} {op' : Operation} {tool' : Tool}, other.tool? op' = some tool' →
      op'.path = op.path → (∀ name, name ∈ other.pathNames op' ↔ name ∈ spec.pathNames op) →
      IsCaptureFree op.path (spec.pathNames op) → IsCaptureFree op.path (other.pathNames op') →
      tool'.formattedPath = tool.formattedPath := by
  have hiff := replacedAtOnce_iff_isCaptureFree h hnames
  refine ⟨hiff, ?_⟩
  intro other op' tool' h' hpath hsame hfree hfree'
  have hnames' : AreBraceless (other.pathNames op') := fun name hname =>
    hnames name ((hsame name).mp hname)
  have honce := hiff.mpr hfree
  have honce' := (replacedAtOnce_iff_isCaptureFree h' hnames').mpr (hpath ▸ hfree')
  rw [hpath] at honce'
  exact String.toList_inj.mp (replacedAtOnce_unique hnames hsame honce honce')

/-- The operation that reads an item of an organisation, both of which are told by the path, with the
given names in the order in which they are declared. -/
def readItemOperation (names : List String) : Operation :=
  ⟨"/orgs/\x7bid\x7d/items/\x7bpath_id\x7d", .get, .object [("parameters", .list (names.map fun name =>
    .object [("name", .text name), ("in", .text "path")]))], .null⟩

/-- Where the name that looks like an argument is declared first, it is not captured. -/
theorem replacedAtOnce_formattedPath_iff_readItem :
    ∃ tool, (Spec.mk .null).tool? (readItemOperation ["path_id", "id"]) = some tool ∧
      AreBraceless ((Spec.mk .null).pathNames (readItemOperation ["path_id", "id"])) ∧
      IsCaptureFree (readItemOperation []).path ["path_id", "id"] ∧
      ReplacedAtOnce (pathTable ["path_id", "id"]) (readItemOperation []).path.toList
        tool.formattedPath.toList ∧
      tool.formattedPath = "/orgs/\x7bpath_id\x7d/items/\x7bpath_path_id\x7d" := by
  have hpath : ((Spec.mk .null).tool? (readItemOperation ["path_id", "id"])).map Tool.formattedPath
      = some "/orgs/\x7bpath_id\x7d/items/\x7bpath_path_id\x7d" := by decide +kernel
  obtain ⟨tool, htool, heq⟩ := Option.map_eq_some_iff.mp hpath
  have hbraceless : AreBraceless ((Spec.mk .null).pathNames (readItemOperation ["path_id", "id"])) := by
    decide +kernel
  have hfree : IsCaptureFree (readItemOperation []).path ["path_id", "id"] := by
    unfold IsCaptureFree
    decide +kernel
  exact ⟨tool, htool, hbraceless, hfree,
    (replacedAtOnce_formattedPath_iff htool hbraceless).1.mpr hfree, heq⟩

/-- Where it is declared second, its placeholder is also what the first one was replaced by, and both
get the argument of the second. -/
theorem not_replacedAtOnce_formattedPath :
    ¬ ∀ (spec : Spec) (op : Operation) (tool : Tool), spec.tool? op = some tool →
      ReplacedAtOnce (pathTable (spec.pathNames op)) op.path.toList tool.formattedPath.toList := by
  intro h
  have hsome : ((Spec.mk .null).tool? (readItemOperation ["id", "path_id"])).isSome = true := by
    decide +kernel
  obtain ⟨tool, htool⟩ := Option.isSome_iff_exists.mp hsome
  have hbraceless : AreBraceless ((Spec.mk .null).pathNames (readItemOperation ["id", "path_id"])) := by
    decide +kernel
  have hfree := (replacedAtOnce_iff_isCaptureFree htool hbraceless).mp (h _ _ tool htool)
  have hcaptured : ¬ IsCaptureFree (readItemOperation []).path ["id", "path_id"] := by
    unfold IsCaptureFree
    decide +kernel
  exact hcaptured hfree

end Spec

end ApiTools
