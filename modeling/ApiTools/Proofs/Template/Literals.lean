import ApiTools.Proofs.Template.Lines
import ApiTools.Proofs.Text.TripleQuoted
import ApiTools.Template.Catalog

/-!
# Where the literals of filled-in templates end

`WritesAt` locates a text that a template writes for the inside of triple quotes, with all that is
written before it and after it.  In the templates of a model and of a package every such text has
triple quotes directly before it and directly after it (`partsEnclosed`), so that quotes at its end
that make up no triple end the literal too early (`docstring_closes_iff`).
-/

namespace ApiTools

open Text TripleQuoted

/-! ### Places of texts -/

/-- The parts write the text for the inside of triple quotes, somewhere between `before` and
`after`. -/
inductive WritesAt (s : String) : Scope → List Part → (before after : List Char) → Prop
  | value {scope : Scope} {path : List String} {parts : List Part} {after : List Char}
      (hvalue : scope.find? path = some (.text s)) (hafter : partsChars? scope parts = some after) :
    WritesAt s scope (.docstring path :: parts) [] after
  | later {scope : Scope} {part : Part} {parts : List Part} {first before after : List Char}
      (hfirst : part.chars? scope = some first) (h : WritesAt s scope parts before after) :
    WritesAt s scope (part :: parts) (first ++ before) after
  | choice {scope : Scope} {condition : Condition} {yes no parts : List Part}
      {before after more : List Char}
      (h : WritesAt s scope (if condition.test scope then yes else no) before after)
      (hmore : partsChars? scope parts = some more) :
    WritesAt s scope (.choice condition yes no :: parts) before (after ++ more)
  | each {scope : Scope} {item : String} {path : List String} {body parts : List Part}
      {values : List Document} {earlier later : List (Document × Bool)} {value : Document}
      {isLast : Bool} {front back : List (List Char)} {before after more : List Char}
      (hvalues : (scope.find? path).bind Document.eachOf? = some values)
      (hsplit : markLast values = earlier ++ (value, isLast) :: later)
      (hfront : (earlier.mapM fun entry =>
        partsChars? (scope.enter ⟨item, entry.1, entry.2⟩) body) = some front)
      (h : WritesAt s (scope.enter ⟨item, value, isLast⟩) body before after)
      (hback : (later.mapM fun entry =>
        partsChars? (scope.enter ⟨item, entry.1, entry.2⟩) body) = some back)
      (hmore : partsChars? scope parts = some more) :
    WritesAt s scope (.each item path body :: parts) (front.flatten ++ before)
      (after ++ (back.flatten ++ more))

/-- What the parts write is the text as it stands inside of triple quotes, between what is before it
and what is after it. -/
theorem partsChars?_of_writesAt {s : String} {scope : Scope} {parts : List Part}
    {before after : List Char} (h : WritesAt s scope parts before after) :
    partsChars? scope parts = some (before ++ ((docstringText s).toList ++ after)) := by
  induction h with
  | @value scope path parts after hvalue hafter =>
    have hchars : (Part.docstring path).chars? scope = some (docstringText s).toList := by
      rw [Part.docstring, Part.chars?, hvalue]
      rfl
    rw [List.nil_append]
    exact partsChars?_cons hchars hafter
  | later hfirst _ ih =>
    rw [List.append_assoc]
    exact partsChars?_cons hfirst ih
  | @choice scope condition yes no parts before after more _ hmore ih =>
    have hchars : (Part.choice condition yes no).chars? scope
        = some (before ++ ((docstringText s).toList ++ after)) := by
      rw [Part.chars?, ← ih]
      split_ifs <;> rfl
    rw [partsChars?_cons hchars hmore]
    simp only [List.append_assoc]
  | @each scope item path body parts values earlier later value isLast front back before after more
      hvalues hsplit hfront _ hback hmore ih =>
    have hall : (markLast values).mapM (fun entry =>
          partsChars? (scope.enter ⟨item, entry.1, entry.2⟩) body)
        = some (front ++ (before ++ ((docstringText s).toList ++ after)) :: back) := by
      rw [hsplit, List.mapM_append, List.mapM_cons, hfront, hback, ih]
      rfl
    have hchars : (Part.each item path body).chars? scope
        = some (front ++ (before ++ ((docstringText s).toList ++ after)) :: back).flatten := by
      rw [Part.chars?, hvalues, Option.bind_some, ← Option.map_some, ← hall]
    rw [partsChars?_cons hchars hmore, List.flatten_append, List.flatten_cons]
    simp only [List.append_assoc]

/-- What is written before the parts is written before the text. -/
theorem WritesAt.append {s : String} {scope : Scope} {front parts : List Part}
    {first before after : List Char} (hfirst : partsChars? scope front = some first)
    (h : WritesAt s scope parts before after) :
    WritesAt s scope (front ++ parts) (first ++ before) after := by
  induction front generalizing first with
  | nil =>
    rw [partsChars?_nil] at hfirst
    cases hfirst
    exact h
  | cons part front ih =>
    obtain ⟨chars, rest, hchars, hrest, rfl⟩ := partsChars?_cons_eq_some.mp hfirst
    rw [List.append_assoc]
    exact .later hchars (ih hrest)

/-- What is written where a condition holds is written. -/
theorem WritesAt.when {s : String} {scope : Scope} {condition : Condition} {yes parts : List Part}
    {before after more : List Char} (h : WritesAt s scope yes before after)
    (hholds : condition.test scope = true) (hmore : partsChars? scope parts = some more) :
    WritesAt s scope (.when condition yes :: parts) before (after ++ more) := by
  refine .choice ?_ hmore
  rwa [hholds, if_pos rfl]

/-! ### Texts that are enclosed in triple quotes -/

/-- Does the part end in triple quotes? -/
def Part.opensLiteral : Part → Bool
  | .text s => quotes.isSuffixOf s.toList
  | _ => false

/-- Do the parts begin with triple quotes? -/
def closesLiteral : List Part → Bool
  | .text s :: _ => quotes.isPrefixOf s.toList
  | _ => false

mutual
/-- Does every text for the inside of triple quotes stand between such quotes?  `opened` and
`closed` say whether there are some directly before the part and directly after it. -/
def Part.isEnclosed (opened closed : Bool) : Part → Bool
  | .value _ (some .docstring) => opened && closed
  | .choice _ yes no => partsEnclosed false yes && partsEnclosed false no
  | .each _ _ body => partsEnclosed false body
  | _ => true

/-- Does every text for the inside of triple quotes stand between such quotes?  `opened` says
whether there are some directly before the parts. -/
def partsEnclosed (opened : Bool) : List Part → Bool
  | [] => true
  | part :: rest =>
    part.isEnclosed opened (closesLiteral rest) && partsEnclosed part.opensLiteral rest
end

variable {s : String} {scope : Scope} {parts : List Part} {before after cs : List Char}
  {opened : Bool}

theorem quotes_prefix_of_closesLiteral (h : closesLiteral parts = true)
    (hchars : partsChars? scope parts = some cs) : quotes <+: cs := by
  unfold closesLiteral at h
  split at h
  · obtain ⟨first, rest, hfirst, -, rfl⟩ := partsChars?_cons_eq_some.mp hchars
    rw [Part.chars?] at hfirst
    cases hfirst
    exact (List.isPrefixOf_iff_prefix.mp h).trans (List.prefix_append ..)
  · cases h

theorem quotes_suffix_of_opensLiteral {part : Part} (h : part.opensLiteral = true)
    (hchars : part.chars? scope = some cs) : quotes <:+ cs := by
  unfold Part.opensLiteral at h
  split at h
  · rw [Part.chars?] at hchars
    cases hchars
    exact List.isSuffixOf_iff_suffix.mp h
  · cases h

/-- An enclosed text has triple quotes directly before it and directly after it. -/
theorem WritesAt.enclosed (h : WritesAt s scope parts before after)
    (hparts : partsEnclosed opened parts = true) :
    (opened = true ∧ before = [] ∨ quotes <:+ before) ∧ quotes <+: after := by
  induction h generalizing opened with
  | value _ hafter =>
    rw [partsEnclosed, Part.docstring, Part.isEnclosed, Bool.and_eq_true, Bool.and_eq_true] at hparts
    exact ⟨.inl ⟨hparts.1.1, rfl⟩, quotes_prefix_of_closesLiteral hparts.1.2 hafter⟩
  | later hfirst _ ih =>
    rw [partsEnclosed, Bool.and_eq_true] at hparts
    obtain ⟨hbefore, hafter⟩ := ih hparts.2
    refine ⟨.inr ?_, hafter⟩
    rcases hbefore with ⟨hopens, rfl⟩ | hbefore
    · rw [List.append_nil]
      exact quotes_suffix_of_opensLiteral hopens hfirst
    · exact hbefore.trans (List.suffix_append ..)
  | @choice scope condition yes no parts before after more _ _ ih =>
    rw [partsEnclosed, Part.isEnclosed, Bool.and_eq_true, Bool.and_eq_true] at hparts
    have htaken : partsEnclosed false (if condition.test scope then yes else no) = true := by
      split_ifs
      · exact hparts.1.1
      · exact hparts.1.2
    obtain ⟨hbefore, hafter⟩ := ih htaken
    exact ⟨.inr (hbefore.resolve_left fun h => Bool.false_ne_true h.1),
      hafter.trans (List.prefix_append ..)⟩
  | each _ _ _ _ _ _ ih =>
    rw [partsEnclosed, Part.isEnclosed, Bool.and_eq_true] at hparts
    obtain ⟨hbefore, hafter⟩ := ih hparts.1
    have hsuffix := hbefore.resolve_left fun h => Bool.false_ne_true h.1
    exact ⟨.inr (hsuffix.trans (List.suffix_append ..)), hafter.trans (List.prefix_append ..)⟩

namespace Template

/-! ### Models and packages -/

/-- The texts that models and packages write for the inside of triple quotes stand between such
quotes. -/
theorem partsEnclosed_of_mem {template : Template} (h : template ∈ [model, package]) :
    partsEnclosed false template = true := by
  rcases List.mem_pair.mp h with rfl | rfl <;> rfl

/-- Is the text what a package is about, the description of a model, or that of one of its
fields? -/
inductive IsDocOf (globals : Members) (s : String) : Template → Prop
  | package (h : globals.get? "doc" = some (.text s)) : IsDocOf globals s package
  | model (h : globals.get? "description" = some (.text s)) : IsDocOf globals s model
  | field {fields : List Document} {field : Document}
      (hfields : globals.get? "fields" = some (.list fields)) (hfield : field ∈ fields)
      (h : field.get? "description" = some (.text s)) (hne : s ≠ "") : IsDocOf globals s model

variable {globals : Members} {template : Template}

theorem IsDocOf.mem (h : IsDocOf globals s template) : template ∈ [Template.model, .package] := by
  cases h <;> simp

/-- The description of a field is written where the field is defined. -/
theorem exists_writesAt_modelField {field : Document} {isLast : Bool}
    (h : field.get? "description" = some (.text s)) (hne : s ≠ "")
    (hcs : partsChars? (scope.enter ⟨"field", field, isLast⟩) modelField = some cs) :
    ∃ before after, WritesAt s (scope.enter ⟨"field", field, isLast⟩) modelField before after := by
  have hfound : (scope.enter ⟨"field", field, isLast⟩).find? ["field", "description"]
      = some (.text s) := by
    refine Scope.find?_enter_self scope isLast ?_
    simp [Scope.along?, h]
  have hholds : (Condition.holds ["field", "description"]).test
      (scope.enter ⟨"field", field, isLast⟩) = true := by
    have hnonempty : s.isEmpty = false := by simpa [String.isEmpty_iff] using hne
    simp [Condition.test, hfound, Document.isTruthy, hnonempty]
  obtain ⟨first, rest, hfirst, hrest, -⟩ := partsChars?_cons_eq_some.mp hcs
  obtain ⟨described, ending, -, hending, -⟩ := partsChars?_cons_eq_some.mp hrest
  have hclosing := partsChars?_cons (chars?_text (scope.enter ⟨"field", field, isLast⟩) "\"\"\"")
    (partsChars?_nil _)
  have hdescribed := WritesAt.later (chars?_text _ "\n    \"\"\"") (.value hfound hclosing)
  exact ⟨_, _, .later hfirst (hdescribed.when hholds hending)⟩

/-- A template that is filled in writes the text at some place. -/
theorem IsDocOf.exists_writesAt (h : IsDocOf globals s template) {source : String}
    (hsource : template.render? globals = some source) :
    ∃ before after, WritesAt s ⟨[], globals⟩ template before after := by
  obtain ⟨cs, hcs, -⟩ := Option.map_eq_some_iff.mp hsource
  cases h with
  | package h =>
    obtain ⟨first, rest, hfirst, hrest, -⟩ := partsChars?_cons_eq_some.mp hcs
    obtain ⟨written, after, -, hafter, -⟩ := partsChars?_cons_eq_some.mp hrest
    exact ⟨_, after, .later hfirst (.value (Scope.find?_globals h) hafter)⟩
  | model h =>
    have hsplit : Template.model
        = Template.model.take 6 ++ .docstring ["description"] :: Template.model.drop 7 := rfl
    rw [hsplit] at hcs ⊢
    obtain ⟨first, rest, hfirst, hrest, -⟩ := partsChars?_append_eq_some.mp hcs
    obtain ⟨written, after, -, hafter, -⟩ := partsChars?_cons_eq_some.mp hrest
    exact ⟨_, after, .append hfirst (.value (Scope.find?_globals h) hafter)⟩
  | @field fields field hfields hfield h hne =>
    have hsplit : Template.model
        = Template.model.take 8 ++ .each "field" ["fields"] modelField :: Template.model.drop 9 :=
      rfl
    rw [hsplit] at hcs ⊢
    obtain ⟨first, rest, hfirst, hrest, -⟩ := partsChars?_append_eq_some.mp hcs
    obtain ⟨items, more, hitems, hmore, -⟩ := partsChars?_cons_eq_some.mp hrest
    have hvalues : (Scope.find? ⟨[], globals⟩ ["fields"]).bind Document.eachOf? = some fields := by
      rw [Scope.find?_globals hfields]
      rfl
    rw [Part.chars?, hvalues, Option.bind_some] at hitems
    obtain ⟨texts, htexts, -⟩ := Option.map_eq_some_iff.mp hitems
    -- The field is one of the items, and the others are written before it and after it.
    obtain ⟨⟨value, isLast⟩, hentry, rfl⟩ : ∃ entry ∈ markLast fields, entry.1 = field :=
      List.mem_map.mp (by rw [map_fst_markLast]; exact hfield)
    obtain ⟨earlier, later, hmarked⟩ := List.append_of_mem hentry
    rw [hmarked, List.mapM_append, List.mapM_cons] at htexts
    obtain ⟨front, hfront, htexts⟩ := Option.bind_eq_some_iff.mp htexts
    obtain ⟨tail, htail, -⟩ := Option.bind_eq_some_iff.mp htexts
    obtain ⟨body, hbody, htail⟩ := Option.bind_eq_some_iff.mp htail
    obtain ⟨back, hback, -⟩ := Option.bind_eq_some_iff.mp htail
    obtain ⟨before, after, hwrites⟩ := exists_writesAt_modelField h hne hbody
    exact ⟨_, _, .append hfirst (.each hvalues hmarked hfront hwrites hback hmore)⟩

/-- The text as it stands inside of triple quotes is read up to its end exactly where the number of
quotes at the end of the text is a multiple of three.  Otherwise the literal for it in a model or a
package ends too early, for the closing quotes follow the text directly. -/
theorem docstring_closes_iff (s : String) :
    (read? ((docstringText s).toList ++ quotes) = some ((docstringText s).toList, []) ↔
      3 ∣ endingQuotes s.toList) ∧
    ∀ (template : Template) (globals : Members) (source : String), IsDocOf globals s template →
      template.render? globals = some source →
      ∃ before after, WritesAt s ⟨[], globals⟩ template before after ∧
        source.toList = before ++ ((docstringText s).toList ++ after) ∧
        quotes <:+ before ∧ quotes <+: after ∧
        ∃ inner left, read? ((docstringText s).toList ++ after) = some (inner, left) ∧
          inner <+: (docstringText s).toList ∧
          (inner.length < (docstringText s).toList.length ↔ ¬ 3 ∣ endingQuotes s.toList) := by
  refine ⟨?_, ?_⟩
  · obtain ⟨inner, hinner, hread⟩ := read?_guarded s.toList []
    rw [List.append_nil, List.append_nil, ← toList_docstringText] at hread
    rw [← toList_docstringText] at hinner
    rw [hread, Option.some.injEq, Prod.mk.injEq, List.replicate_eq_nil_iff,
      ← Nat.dvd_iff_mod_eq_zero, and_iff_right_of_imp]
    intro hdvd
    rw [hinner, Nat.mod_eq_zero_of_dvd hdvd, List.replicate_zero, List.append_nil]
  · intro template globals source hdoc hsource
    obtain ⟨before, after, hwrites⟩ := hdoc.exists_writesAt hsource
    obtain ⟨hbefore, hafter⟩ := hwrites.enclosed (partsEnclosed_of_mem hdoc.mem)
    have hsplit : source.toList = before ++ ((docstringText s).toList ++ after) := by
      unfold render? at hsource
      rw [partsChars?_of_writesAt hwrites, Option.map_some] at hsource
      cases hsource
      exact String.toList_ofList
    refine ⟨before, after, hwrites, hsplit,
      hbefore.resolve_left fun h => Bool.false_ne_true h.1, hafter, ?_⟩
    obtain ⟨rest, rfl⟩ := hafter
    obtain ⟨inner, hinner, hread⟩ := read?_guarded s.toList rest
    rw [← toList_docstringText] at hinner hread
    refine ⟨inner, _, hread, hinner ▸ List.prefix_append .., ?_⟩
    rw [hinner, List.length_append, List.length_replicate, Nat.dvd_iff_mod_eq_zero]
    omega

/-- The values for the model of a schema with one field, whose description ends in a quote. -/
def rexValues : Members :=
  [("schema_name", .text "Pet"), ("class_name", .text "Pet"), ("description", .text "A pet"),
    ("fields", .list [.object [("name", .text "name"), ("type", .text "str"),
      ("required", .bool true), ("alias", .null), ("description", .text "As in \"Rex\"")]])]

/-- The literal for the description ends one quote too early. -/
theorem docstring_closes_iff_rex :
    IsDocOf rexValues "As in \"Rex\"" model ∧
    ∃ source before after inner left, model.render? rexValues = some source ∧
      source.toList = before ++ ((docstringText "As in \"Rex\"").toList ++ after) ∧
      quotes <:+ before ∧
      read? ((docstringText "As in \"Rex\"").toList ++ after) = some (inner, left) ∧
      inner <+: (docstringText "As in \"Rex\"").toList ∧
      inner.length < (docstringText "As in \"Rex\"").toList.length := by
  have hdoc : IsDocOf rexValues "As in \"Rex\"" model :=
    .field rfl (List.mem_singleton_self _) rfl (by decide)
  have hsome : (model.render? rexValues).isSome = true := rfl
  obtain ⟨source, hsource⟩ := Option.isSome_iff_exists.mp hsome
  obtain ⟨before, after, -, hsplit, hbefore, -, inner, left, hread, hinner, hshort⟩ :=
    (docstring_closes_iff "As in \"Rex\"").2 model rexValues source hdoc hsource
  have hone : ¬ 3 ∣ endingQuotes "As in \"Rex\"".toList := by decide
  exact ⟨hdoc, source, before, after, inner, left, hsource, hsplit, hbefore, hread, hinner,
    hshort.mpr hone⟩

end Template

end ApiTools
