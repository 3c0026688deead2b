import ApiTools.Project.Artifact
import ApiTools.Proofs.Audit.Source
import ApiTools.Proofs.Template.Lines

/-!
# What the templates of tools and servers define and register

A module of tools defines the functions that it is filled in from, in order, and nothing else, where
its values are of one line (`Template.map_fst_definitions_tools`): a name stands at the beginning of
a line only where the template has one begin.  A server registers the functions that it is given, in
order, and nothing else, where no registration begins in its title
(`Template.registrations_server`).
-/

namespace ApiTools

open Audit Naming Text

/-! ### Modules of tools -/

namespace Template

variable {scope : Scope} {name source : String} {cs : List Char}

/-- After its name a definition goes on to the end of a line and defines nothing more. -/
theorem lineAfter_toolDefinition : partsLineAfter? false (toolDefinition.drop 3) = some true := by
  decide +kernel

/-- Before the first definition there are whole lines. -/
theorem lineAfter_tools : partsLineAfter? true (tools.take 6) = some true := by decide +kernel

/-- The definition of a tool begins in a line of its own. -/
theorem exists_head_toolDefinition (hfound : scope.find? ["f", "name"] = some (.text name))
    (h : partsChars? scope toolDefinition = some cs) :
    ∃ rest, partsChars? scope (toolDefinition.drop 3) = some rest ∧
      cs = '\n' :: '\n' :: ("async def ".toList ++ (name.toList ++ '(' :: rest)) := by
  have hsplit : toolDefinition = .text "\n\nasync def " :: .plain ["f", "name"] :: .text "("
      :: toolDefinition.drop 3 := rfl
  rw [hsplit] at h
  obtain ⟨lead, afterLead, hlead, hafterLead, rfl⟩ := partsChars?_cons_eq_some.mp h
  obtain ⟨shown, afterName, hshown, hafterName, rfl⟩ := partsChars?_cons_eq_some.mp hafterLead
  obtain ⟨opening, rest, hopening, hrest, rfl⟩ := partsChars?_cons_eq_some.mp hafterName
  rw [Part.chars?] at hlead hopening
  rw [Part.plain, Part.chars?, hfound] at hshown
  cases hlead
  cases hopening
  cases hshown
  exact ⟨rest, hrest, rfl⟩

theorem definedNames_toolDefinition (hscope : scope.IsOneLine) (hname : IsName name)
    (hfound : scope.find? ["f", "name"] = some (.text name))
    (h : partsChars? scope toolDefinition = some cs) (more : List Char) :
    definedNames true (cs ++ more) = name :: definedNames true more := by
  obtain ⟨rest, hrest, rfl⟩ := exists_head_toolDefinition hfound h
  have hlines : isQuiet true ['\n', '\n'] = true := by decide
  have hsplit : '\n' :: '\n' :: ("async def ".toList ++ (name.toList ++ '(' :: rest)) ++ more
      = ['\n', '\n'] ++ ("async def ".toList ++ (name.toList ++ '(' :: (rest ++ more))) := by
    simp only [List.append_assoc, List.cons_append, List.nil_append]
  rw [hsplit, definedNames_append hlines]
  refine (definedNames_definition hname (rest ++ more)).trans ?_
  rw [definedNames_partsChars? _ hscope lineAfter_toolDefinition hrest more]

/-- A module of tools defines the functions that it is filled in from. -/
theorem map_fst_definitions_tools {values : Members} {functions : List Document}
    (hvalues : (Document.object values).IsOneLine)
    (hfunctions : Members.get? values "functions" = some (.list functions))
    (hname : ∀ function ∈ functions, ∃ name, function.getText? "name" = some name ∧ IsName name)
    (h : tools.render? values = some source) :
    (definitions source).map Prod.fst
      = functions.map fun function => (function.getText? "name").getD "" := by
  obtain ⟨cs, hcs, rfl⟩ := Option.map_eq_some_iff.mp h
  have hscope : Scope.IsOneLine ⟨[], values⟩ :=
    ⟨fun _ hmem => absurd hmem List.not_mem_nil, Document.isOneLine_object.mp hvalues⟩
  -- The parts before the functions, and the line break behind them, define nothing.
  have hsplit : tools = tools.take 6 ++ [.each "f" ["functions"] toolDefinition, .text "\n"] := rfl
  rw [hsplit] at hcs
  obtain ⟨front, rest, hfront, hrest, rfl⟩ := partsChars?_append_eq_some.mp hcs
  obtain ⟨body, ending, hbody, hending, rfl⟩ := partsChars?_cons_eq_some.mp hrest
  have hfound : Scope.find? ⟨[], values⟩ ["functions"] = some (.list functions) := by
    show (Members.get? values "functions").bind (Scope.along? · []) = _
    rw [hfunctions]
    rfl
  rw [Part.chars?, hfound] at hbody
  obtain ⟨texts, htexts, rfl⟩ := Option.map_eq_some_iff.mp hbody
  have hlast : partsLineAfter? true [.text "\n"] = some true := by decide
  have hdefined : ∀ more, definedNames true (texts.flatten ++ more)
      = (markLast functions).flatMap (fun entry => [(entry.1.getText? "name").getD ""])
        ++ definedNames true more := by
    refine definedNames_mapM htexts fun entry hentry cs hcs more => ?_
    have hmem : entry.1 ∈ functions := map_fst_markLast functions ▸ List.mem_map_of_mem hentry
    obtain ⟨name, hgiven, hisName⟩ := hname entry.1 hmem
    have hline : entry.1.IsOneLine :=
      Document.isOneLine_list.mp (hscope.find? hfound) entry.1 hmem
    refine (definedNames_toolDefinition (hscope.enter ⟨"f", entry.1, entry.2⟩ hline) hisName ?_ hcs
      more).trans ?_
    · obtain ⟨value, hvalue, htext⟩ := Option.bind_eq_some_iff.mp hgiven
      cases value <;> cases htext
      simp [Scope.find?, Scope.enter, Scope.along?, hvalue]
    · rw [hgiven]
      rfl
  rw [map_fst_definitions, String.toList_ofList,
    definedNames_partsChars? _ hscope lineAfter_tools hfront, hdefined]
  have hend : definedNames true ending = [] := by
    have hnothing := definedNames_partsChars? _ hscope hlast hending []
    rw [List.append_nil] at hnothing
    exact hnothing
  rw [hend, List.append_nil, ← List.map_eq_flatMap]
  conv_rhs => rw [← map_fst_markLast functions, List.map_map]
  rfl

/-! ### The server -/

/-- The characters that import a module of tools. -/
def importChars (package : String) (registration : Registration) : List Char :=
  "\nfrom ".toList ++ (package.toList ++ (".tools import ".toList
    ++ (registration.module.toList ++ [])))

/-- The characters that register a function of a module. -/
def callChars (module name : String) : List Char :=
  "\nmcp.tool()(".toList ++ (module.toList ++ (".".toList ++ (name.toList ++ (")".toList ++ []))))

/-- The characters that register the functions of a module. -/
def registrationChars (registration : Registration) : List Char :=
  "\n# ".toList ++ (registration.module.toList
    ++ (registration.functions.flatMap (callChars registration.module) ++ ("\n".toList ++ [])))

theorem no_parenthesis_imports {package : String} {registrations : List Registration}
    (hpackage : IsName package) (hmodules : ∀ r ∈ registrations, IsName r.module) :
    '(' ∉ registrations.flatMap (importChars package) := by
  have hparenthesis : ∀ {s : String}, IsName s → '(' ∉ s.toList := fun hs => hs.not_mem (by decide)
  intro hmem
  obtain ⟨r, hr, hmem⟩ := List.mem_flatMap.mp hmem
  unfold importChars at hmem
  simp only [List.mem_append, List.not_mem_nil, or_false] at hmem
  rcases hmem with hmem | hmem | hmem | hmem
  · exact absurd hmem (by decide)
  · exact hparenthesis hpackage hmem
  · exact absurd hmem (by decide)
  · exact hparenthesis (hmodules r hr) hmem

/-- The functions of a module are registered in order, whatever stands before them in the line. -/
theorem registrationsFrom_calls {module : String} {names : List String} (hmodule : IsName module)
    (hnames : ∀ name ∈ names, IsName name) (hcs : IsFree cs) (more : List Char) :
    registrationsFrom 0 (cs ++ (names.flatMap (callChars module) ++ '\n' :: more))
      = names ++ registrationsFrom 0 more := by
  have hguard : IsGuard '\n' := by decide
  induction names generalizing cs with
  | nil => exact registrationsFrom_append hguard hcs more
  | cons name rest ih =>
    rw [List.forall_mem_cons] at hnames
    have hcall : callChars module name
        = '\n' :: (registrationStart ++ (module.toList ++ '.' :: (name.toList ++ [')']))) := rfl
    have hrest := ih hnames.2 isFree_nil
    rw [List.nil_append] at hrest
    calc registrationsFrom 0 (cs ++ ((name :: rest).flatMap (callChars module) ++ '\n' :: more))
        = registrationsFrom 0 (cs ++ '\n' :: (registrationStart ++ (module.toList
            ++ '.' :: (name.toList ++ ')' :: (rest.flatMap (callChars module)
              ++ '\n' :: more))))) := by
          rw [List.flatMap_cons, hcall]
          simp only [List.cons_append, List.append_assoc, List.nil_append]
      _ = name :: registrationsFrom 0 (rest.flatMap (callChars module) ++ '\n' :: more) := by
          rw [registrationsFrom_append hguard hcs,
            registrationsFrom_registration hmodule hnames.1]
      _ = (name :: rest) ++ registrationsFrom 0 more := by rw [hrest, List.cons_append]

theorem registrationsFrom_registrationChars {registrations : List Registration}
    (hnames : ∀ r ∈ registrations, IsName r.module ∧ ∀ f ∈ r.functions, IsName f)
    (more : List Char) :
    registrationsFrom 0 (registrations.flatMap registrationChars ++ more)
      = registrations.flatMap Registration.functions ++ registrationsFrom 0 more := by
  induction registrations with
  | nil => rfl
  | cons r rest ih =>
    rw [List.forall_mem_cons] at hnames
    have hparenthesis : '(' ∉ "\n# ".toList ++ r.module.toList := by
      rw [List.mem_append, not_or]
      exact ⟨by decide, hnames.1.1.not_mem (by decide)⟩
    have hchars : registrationChars r ++ (rest.flatMap registrationChars ++ more)
        = ("\n# ".toList ++ r.module.toList) ++ (r.functions.flatMap (callChars r.module)
            ++ '\n' :: (rest.flatMap registrationChars ++ more)) := by
      unfold registrationChars
      simp only [List.append_assoc, List.append_nil]
      rfl
    rw [List.flatMap_cons, List.flatMap_cons, List.append_assoc, hchars,
      registrationsFrom_calls hnames.1.1 hnames.1.2 (isFree_of_not_mem hparenthesis), ih hnames.2,
      List.append_assoc]

variable {title package serverName : String} {registrations : List Registration}

/-- The text that stands at a position of the server's template. -/
def textAt (position : Nat) : List Char :=
  match server[position]? with
  | some (.text s) => s.toList
  | _ => []

/-- The texts around the title and after the imports keep what stands between them apart. -/
theorem isSeparator_textAt (position : Nat) (h : position ∈ [0, 2, 4, 6]) :
    IsSeparator (textAt position) := by
  revert position
  decide +kernel

/-- The values for the server. -/
def serverValues (title package serverName : String) (registrations : List Registration) : Members :=
  [("title", .text title), ("package", .text package), ("server_name", .text serverName),
    ("modules", .list (registrations.map ProjectPlan.registrationValues))]

section Parts

variable {scope : Scope}
  (hmodules : scope.find? ["modules"]
    = some (.list (registrations.map ProjectPlan.registrationValues)))

include hmodules

theorem chars?_imports (hpackage : scope.find? ["package"] = some (.text package)) :
    (Part.each "m" ["modules"] [.text "\nfrom ", .plain ["package"], .text ".tools import ",
      .plain ["m", "module"]]).chars? scope
      = some (registrations.flatMap (importChars package)) := by
  refine chars?_each hmodules fun r _ isLast => ?_
  -- Inside the loop the name of the package is still the one outside.
  have hpackage' := (scope.find?_enter_of_ne (ProjectPlan.registrationValues r) isLast
    (show "m" ≠ "package" by decide)).trans hpackage
  have hmodule : (scope.enter ⟨"m", ProjectPlan.registrationValues r, isLast⟩).find? ["m", "module"]
      = some (.text r.module) := scope.find?_enter_self isLast rfl
  exact partsChars?_cons (chars?_text ..) <| partsChars?_cons (chars?_plain hpackage') <|
    partsChars?_cons (chars?_text ..) <| partsChars?_cons (chars?_plain hmodule) <|
    partsChars?_nil _

theorem chars?_calls : (Part.each "m" ["modules"] [.text "\n# ", .plain ["m", "module"],
      .each "name" ["m", "functions"] [.text "\nmcp.tool()(", .plain ["m", "module"], .text ".",
        .plain ["name"], .text ")"], .text "\n"]).chars? scope
      = some (registrations.flatMap registrationChars) := by
  refine chars?_each hmodules fun r _ isLast => ?_
  have hmodule : (scope.enter ⟨"m", ProjectPlan.registrationValues r, isLast⟩).find? ["m", "module"]
      = some (.text r.module) := scope.find?_enter_self isLast rfl
  have hfunctions : (scope.enter ⟨"m", ProjectPlan.registrationValues r, isLast⟩).find?
      ["m", "functions"] = some (.list (r.functions.map .text)) :=
    scope.find?_enter_self isLast rfl
  have hcalls : (Part.each "name" ["m", "functions"] [.text "\nmcp.tool()(",
      .plain ["m", "module"], .text ".", .plain ["name"], .text ")"]).chars?
        (scope.enter ⟨"m", ProjectPlan.registrationValues r, isLast⟩)
      = some (r.functions.flatMap (callChars r.module)) := by
    refine chars?_each hfunctions fun f _ isLast' => ?_
    have hinner := (Scope.find?_enter_of_ne _ (.text f) isLast'
      (show "name" ≠ "m" by decide)).trans hmodule
    exact partsChars?_cons (chars?_text ..) <| partsChars?_cons (chars?_plain hinner) <|
      partsChars?_cons (chars?_text ..) <|
      partsChars?_cons (chars?_plain (Scope.find?_enter_self _ isLast' rfl)) <|
      partsChars?_cons (chars?_text ..) <| partsChars?_nil _
  exact partsChars?_cons (chars?_text ..) <| partsChars?_cons (chars?_plain hmodule) <|
    partsChars?_cons hcalls <| partsChars?_cons (chars?_text ..) <| partsChars?_nil _

end Parts

/-- The source of the server, part by part. -/
theorem partsChars?_server :
    partsChars? ⟨[], serverValues title package serverName registrations⟩ server
      = some (textAt 0 ++ (title.toList ++ (textAt 2 ++ (title.toList ++ (textAt 4
        ++ (registrations.flatMap (importChars package) ++ (textAt 6 ++ (textAt 7
        ++ (Quoted.encodeChars serverName.toList ++ (textAt 9
        ++ (registrations.flatMap registrationChars ++ (textAt 11 ++ [])))))))))))) := by
  have htitle : Scope.find? ⟨[], serverValues title package serverName registrations⟩ ["title"]
      = some (.text title) := Scope.find?_globals rfl
  have hpackage : Scope.find? ⟨[], serverValues title package serverName registrations⟩ ["package"]
      = some (.text package) := Scope.find?_globals rfl
  have hserver : Scope.find? ⟨[], serverValues title package serverName registrations⟩
      ["server_name"] = some (.text serverName) := Scope.find?_globals rfl
  have hmodules : Scope.find? ⟨[], serverValues title package serverName registrations⟩ ["modules"]
      = some (.list (registrations.map ProjectPlan.registrationValues)) := Scope.find?_globals rfl
  exact partsChars?_cons (chars?_text ..) <| partsChars?_cons (chars?_plain htitle) <|
    partsChars?_cons (chars?_text ..) <| partsChars?_cons (chars?_plain htitle) <|
    partsChars?_cons (chars?_text ..) <| partsChars?_cons (chars?_imports hmodules hpackage) <|
    partsChars?_cons (chars?_text ..) <| partsChars?_cons (chars?_text ..) <|
    partsChars?_cons (chars?_quoted hserver) <| partsChars?_cons (chars?_text ..) <|
    partsChars?_cons (chars?_calls hmodules) <| partsChars?_cons (chars?_text ..) <|
    partsChars?_nil _

/-- No registration begins where the server gets its name, which is quoted there. -/
theorem isFree_serverName (h : IsFree serverName.toList) :
    IsFree (textAt 7 ++ (Quoted.encodeChars serverName.toList ++ [')'])) := by
  have hquoted : textAt 7 ++ (Quoted.encodeChars serverName.toList ++ [')'])
      = textAt 7 ++ '"' :: (serverName.toList.flatMap Quoted.escape ++ '"' :: [')']) := by
    simp [Quoted.encodeChars]
  rw [hquoted, isFree_append (by decide), isFree_append (by decide)]
  exact ⟨by decide, h.escape, by decide⟩

/-- The server registers the functions of its modules, in order. -/
theorem registrations_server (htitle : IsFree title.toList) (hserver : IsFree serverName.toList)
    (hpackage : IsName package)
    (hnames : ∀ r ∈ registrations, IsName r.module ∧ ∀ f ∈ r.functions, IsName f)
    (h : server.render? (serverValues title package serverName registrations) = some source) :
    Audit.registrations source = registrations.flatMap Registration.functions := by
  obtain ⟨cs, hcs, rfl⟩ := Option.map_eq_some_iff.mp h
  have hlast : textAt 9 = [')', '\n'] := by decide
  -- What was filled in goes with the text after it, which keeps it apart from what follows.
  have hpieces : cs = ([] ++ textAt 0) ++ ((title.toList ++ textAt 2) ++ ((title.toList ++ textAt 4)
      ++ ((registrations.flatMap (importChars package) ++ textAt 6)
      ++ ((textAt 7 ++ (Quoted.encodeChars serverName.toList ++ [')'])) ++ '\n'
        :: (registrations.flatMap registrationChars ++ textAt 11))))) := by
    refine (Option.some.inj (hcs.symm.trans partsChars?_server)).trans ?_
    rw [hlast]
    simp only [List.append_assoc, List.cons_append, List.nil_append, List.append_nil]
  have hlead : IsSkipped ([] ++ textAt 0) :=
    isFree_nil.isSkipped_append (isSeparator_textAt 0 (by decide))
  have hheading : IsSkipped (title.toList ++ textAt 2) :=
    htitle.isSkipped_append (isSeparator_textAt 2 (by decide))
  have hmotto : IsSkipped (title.toList ++ textAt 4) :=
    htitle.isSkipped_append (isSeparator_textAt 4 (by decide))
  have himported : IsFree (registrations.flatMap (importChars package)) :=
    isFree_of_not_mem (no_parenthesis_imports hpackage fun r hr => (hnames r hr).1)
  have hsettings : IsSkipped (registrations.flatMap (importChars package) ++ textAt 6) :=
    himported.isSkipped_append (isSeparator_textAt 6 (by decide))
  have hmain : IsFree (textAt 11) := by decide +kernel
  unfold Audit.registrations
  rw [String.toList_ofList, hpieces, hlead, hheading, hmotto, hsettings,
    registrationsFrom_append (by decide) (isFree_serverName hserver),
    registrationsFrom_registrationChars hnames, registrationsFrom_of_isFree hmain, List.append_nil]

end Template

end ApiTools
