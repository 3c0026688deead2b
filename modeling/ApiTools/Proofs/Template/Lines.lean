import ApiTools.Proofs.Audit.Source
import ApiTools.Proofs.Document.Parts
import ApiTools.Template

/-!
# What filled-in templates define

A template is filled in with values of one line, so the lines of the result begin where those of the
template do.  `Part.lineAfter?` follows the beginnings of lines through the parts of a template; it
gives up where one begins with a value or with an `a`.  Where it does not give up, filling in the
parts defines nothing (`definedNames_partsChars?`).
-/

namespace ApiTools

open Audit Text

/-! ### Values of one line -/

namespace Document

variable {doc part value : Document} {s : String} {items : List Document} {members : Members}

/-- Is every text in the document of one line? -/
def IsOneLine (doc : Document) : Prop := ∀ s, .text s ∈ doc.parts → Text.IsOneLine s

theorem isOneLine_text : (Document.text s).IsOneLine ↔ Text.IsOneLine s := by
  refine ⟨fun h => h s (self_mem_parts _), fun h t ht => ?_⟩
  cases List.mem_singleton.mp ht
  exact h

theorem isOneLine_bool (b : Bool) : (Document.bool b).IsOneLine := by
  intro s hs
  cases List.mem_singleton.mp hs

theorem isOneLine_null : Document.null.IsOneLine := by
  intro s hs
  cases List.mem_singleton.mp hs

theorem isOneLine_list : (Document.list items).IsOneLine ↔ ∀ item ∈ items, item.IsOneLine := by
  constructor
  · exact fun h item hitem s hs => h s (mem_parts_list.mpr (.inr ⟨item, hitem, hs⟩))
  · intro h s hs
    rcases mem_parts_list.mp hs with heq | ⟨item, hitem, hs⟩
    · cases heq
    · exact h item hitem s hs

theorem isOneLine_object :
    (Document.object members).IsOneLine ↔ ∀ entry ∈ members, entry.2.IsOneLine := by
  constructor
  · exact fun h entry hentry s hs => h s (mem_parts_object.mpr (.inr ⟨entry, hentry, hs⟩))
  · intro h s hs
    rcases mem_parts_object.mp hs with heq | ⟨entry, hentry, hs⟩
    · cases heq
    · exact h entry hentry s hs

theorem IsOneLine.of_part (h : doc.IsOneLine) (hpart : part ∈ doc.parts) : part.IsOneLine :=
  fun s hs => h s (mem_parts_trans doc hs hpart)

theorem IsOneLine.ofText? {text? : Option String} (h : ∀ s ∈ text?, Text.IsOneLine s) :
    (Document.ofText? text?).IsOneLine := by
  cases text? with
  | none => exact isOneLine_null
  | some s => exact isOneLine_text.mpr (h s rfl)

theorem shownChars_text (s : String) : (Document.text s).shownChars = s.toList := by
  rw [shownChars.eq_def]

mutual
theorem newline_not_mem_shownChars : (doc : Document) → doc.IsOneLine → '\n' ∉ doc.shownChars
  | .null, _ => by
    rw [shownChars.eq_def]
    exact List.not_mem_nil
  | .bool b, _ => by
    rw [shownChars.eq_def]
    cases b <;> decide
  | .number n, _ => by
    rw [shownChars.eq_def]
    cases n with
    | int i => exact isOneLine_intText i
    | float x => exact DecimalFormat.isOneLine_write (by decide) (by decide) (by decide) x
  | .text s, h => by
    rw [shownChars_text]
    exact isOneLine_text.mp h
  | .list items, h => by
    have hitems := newline_not_mem_shownItems items (isOneLine_list.mp h)
    rw [shownChars.eq_def]
    simpa using hitems
  | .object members, _ => by
    rw [shownChars.eq_def]
    dsimp only
    decide

theorem newline_not_mem_shownItems : (items : List Document) → (∀ item ∈ items, item.IsOneLine) →
    '\n' ∉ shownItems items
  | [], _ => List.not_mem_nil
  | [item], h => newline_not_mem_shownChars item (h item (List.mem_singleton_self item))
  | item :: second :: rest, h => by
    have hitem := newline_not_mem_shownChars item (h item (List.mem_cons_self ..))
    have hrest := newline_not_mem_shownItems (second :: rest)
      fun other hother => h other (List.mem_cons_of_mem _ hother)
    simpa [shownItems] using ⟨hitem, hrest⟩
end

theorem mem_visibleChars {cs : List Char} (h : s ∈ visibleChars cs) {c : Char} (hc : c ∈ s.toList) :
    c ∈ cs := by
  fun_induction visibleChars cs with
  | case1 rest ih =>
    rcases List.mem_cons.mp h with rfl | h
    · have hpair : c ∈ ['\r', '\n'] := hc
      rcases List.mem_pair.mp hpair with rfl | rfl <;> simp
    · exact List.mem_cons_of_mem _ (List.mem_cons_of_mem _ (ih h))
  | case2 a rest _ ih =>
    rcases List.mem_cons.mp h with rfl | h
    · rw [String.toList_singleton, List.mem_singleton] at hc
      exact hc ▸ List.mem_cons_self ..
    · exact List.mem_cons_of_mem _ (ih h)
  | case3 => cases h

theorem IsOneLine.eachOf? {values : List Document} (h : doc.IsOneLine)
    (hvalues : doc.eachOf? = some values) : ∀ value ∈ values, value.IsOneLine := by
  unfold Document.eachOf? at hvalues
  split at hvalues
  · cases hvalues
    exact isOneLine_list.mp h
  · next s =>
    cases hvalues
    intro value hvalue
    obtain ⟨piece, hpiece, rfl⟩ := List.mem_map.mp hvalue
    exact isOneLine_text.mpr fun hmem => isOneLine_text.mp h (mem_visibleChars hpiece hmem)
  · cases hvalues

end Document

/-- A filter keeps a value in its line. -/
theorem Filter.isOneLine_apply {value : Document} (h : value.IsOneLine) (filter : Filter) :
    Text.IsOneLine (filter.apply value) := by
  cases filter with
  | quoted => cases value <;> exact Quoted.isOneLine_encode _
  | docstring =>
    cases value with
    | text s =>
      have hs : Text.IsOneLine s := Document.isOneLine_text.mp h
      exact (hs.replace _ (by decide)).replace _ (by decide)
    | _ => exact List.not_mem_nil

namespace Scope

variable {scope : Scope} {path : List String} {value : Document}

/-- Is everything that the names stand for of one line? -/
structure IsOneLine (scope : Scope) : Prop where
  items : ∀ item ∈ scope.items, item.value.IsOneLine
  globals : ∀ entry ∈ scope.globals, entry.2.IsOneLine

theorem mem_parts_of_along? {doc : Document} (h : along? doc path = some value) :
    value ∈ doc.parts := by
  unfold along? at h
  induction path generalizing doc with
  | nil =>
    cases h
    exact Document.self_mem_parts _
  | cons name rest ih =>
    rw [List.foldlM_cons] at h
    obtain ⟨child, hchild, hvalue⟩ := Option.bind_eq_some_iff.mp h
    exact Document.mem_parts_trans doc (ih hvalue) (Document.mem_parts_of_get? hchild)

theorem IsOneLine.find? (h : scope.IsOneLine) (hvalue : scope.find? path = some value) :
    value.IsOneLine := by
  unfold Scope.find? at hvalue
  split at hvalue
  · cases hvalue
  · next name rest =>
    dsimp only at hvalue
    rcases hlocal : (scope.items.findSome? fun item =>
      if item.name = name then along? item.value rest else none) with _ | found
    · rw [hlocal] at hvalue
      obtain ⟨doc, hdoc, hfound⟩ := Option.bind_eq_some_iff.mp hvalue
      exact (h.globals _ (Members.mem_of_get? hdoc)).of_part (mem_parts_of_along? hfound)
    · rw [hlocal] at hvalue
      cases hvalue
      obtain ⟨item, hitem, hfound⟩ := List.exists_of_findSome?_eq_some hlocal
      split_ifs at hfound
      exact (h.items item hitem).of_part (mem_parts_of_along? hfound)

theorem IsOneLine.enter (h : scope.IsOneLine) (item : LoopItem) (hitem : item.value.IsOneLine) :
    (scope.enter item).IsOneLine :=
  ⟨List.forall_mem_cons.mpr ⟨hitem, h.items⟩, h.globals⟩

end Scope

namespace Scope

theorem find?_enter_self (scope : Scope) {name : String} {rest : List String}
    {value found : Document} (isLast : Bool) (h : along? value rest = some found) :
    (scope.enter ⟨name, value, isLast⟩).find? (name :: rest) = some found := by
  simp [Scope.find?, enter, h]

theorem find?_enter_of_ne (scope : Scope) {item name : String} {rest : List String}
    (value : Document) (isLast : Bool) (h : item ≠ name) :
    (scope.enter ⟨item, value, isLast⟩).find? (name :: rest) = scope.find? (name :: rest) := by
  simp [Scope.find?, enter, h]

theorem find?_globals {globals : Members} {name : String} {value : Document}
    (h : globals.get? name = some value) : Scope.find? ⟨[], globals⟩ [name] = some value := by
  simp [Scope.find?, along?, h]

end Scope

/-! ### Filling in part by part -/

variable {scope : Scope} {parts more : List Part} {cs : List Char}

theorem partsChars?_cons {part : Part} {first rest : List Char} (h : part.chars? scope = some first)
    (hrest : partsChars? scope parts = some rest) :
    partsChars? scope (part :: parts) = some (first ++ rest) := by
  rw [partsChars?, h, hrest]
  rfl

theorem partsChars?_nil (scope : Scope) : partsChars? scope [] = some [] := by rw [partsChars?]

theorem chars?_text (scope : Scope) (s : String) : (Part.text s).chars? scope = some s.toList := by
  rw [Part.chars?]

theorem chars?_plain {path : List String} {s : String} (h : scope.find? path = some (.text s)) :
    (Part.plain path).chars? scope = some s.toList := by
  rw [Part.plain, Part.chars?, h, Option.map_some]
  exact congrArg some (Document.shownChars_text s)

theorem chars?_quoted {path : List String} {s : String} (h : scope.find? path = some (.text s)) :
    (Part.quoted path).chars? scope = some (Quoted.encodeChars s.toList) := by
  rw [Part.quoted, Part.chars?, h, Option.map_some]
  exact congrArg some String.toList_ofList

theorem map_fst_markLast (values : List Document) : (markLast values).map Prod.fst = values := by
  fun_induction markLast values with
  | case1 => rfl
  | case2 item => rfl
  | case3 item rest _ ih => rw [List.map_cons, ih]

/-- What is filled in for each item stands one after the other. -/
theorem chars?_each {α : Type} {item : String} {path : List String} {body : List Part}
    {xs : List α} {value : α → Document} {text : α → List Char}
    (hvalues : scope.find? path = some (.list (xs.map value)))
    (h : ∀ x ∈ xs, ∀ isLast,
      partsChars? (scope.enter ⟨item, value x, isLast⟩) body = some (text x)) :
    (Part.each item path body).chars? scope = some (xs.flatMap text) := by
  have hmapM : ∀ ys : List α, (∀ x ∈ ys, ∀ isLast,
      partsChars? (scope.enter ⟨item, value x, isLast⟩) body = some (text x)) →
      ((markLast (ys.map value)).mapM fun entry =>
        partsChars? (scope.enter ⟨item, entry.1, entry.2⟩) body) = some (ys.map text) := by
    intro ys hys
    induction ys with
    | nil => rfl
    | cons x rest ih =>
      rw [List.forall_mem_cons] at hys
      cases rest with
      | nil => simp [markLast, hys.1]
      | cons y rest =>
        rw [List.map_cons, List.map_cons, markLast, List.mapM_cons, hys.1, ← List.map_cons,
          ih hys.2]
        · rfl
        · simp
  rw [Part.chars?, hvalues]
  show Option.map List.flatten ((markLast (xs.map value)).mapM _) = _
  rw [hmapM xs h, Option.map_some, List.flatMap_def]

theorem partsChars?_cons_eq_some {part : Part} : partsChars? scope (part :: parts) = some cs ↔
    ∃ first rest, part.chars? scope = some first ∧ partsChars? scope parts = some rest ∧
      cs = first ++ rest := by
  rw [partsChars?]
  simp only [bind, Option.bind_eq_some_iff, pure, Option.some.injEq]
  constructor
  · rintro ⟨first, hfirst, rest, hrest, rfl⟩
    exact ⟨first, rest, hfirst, hrest, rfl⟩
  · rintro ⟨first, rest, hfirst, hrest, rfl⟩
    exact ⟨first, hfirst, rest, hrest, rfl⟩

theorem partsChars?_append_eq_some : partsChars? scope (parts ++ more) = some cs ↔
    ∃ first rest, partsChars? scope parts = some first ∧ partsChars? scope more = some rest ∧
      cs = first ++ rest := by
  induction parts generalizing cs with
  | nil =>
    rw [List.nil_append]
    refine ⟨fun h => ⟨[], cs, by rw [partsChars?], h, rfl⟩, ?_⟩
    rintro ⟨first, rest, hfirst, hrest, rfl⟩
    rw [partsChars?] at hfirst
    cases hfirst
    exact hrest
  | cons part parts ih =>
    simp only [List.cons_append, partsChars?_cons_eq_some, ih]
    constructor
    · rintro ⟨first, -, hfirst, ⟨second, rest, hsecond, hrest, rfl⟩, rfl⟩
      exact ⟨first ++ second, rest, ⟨first, second, hfirst, hsecond, rfl⟩, hrest,
        (List.append_assoc ..).symm⟩
    · rintro ⟨-, rest, ⟨first, second, hfirst, hsecond, rfl⟩, hrest, rfl⟩
      exact ⟨first, second ++ rest, hfirst, ⟨second, rest, hsecond, hrest, rfl⟩,
        List.append_assoc ..⟩

/-! ### Parts that define nothing -/

mutual
/-- Does a line begin after the part?  Nothing is known where a line begins with a value or with an
`a`, or where that depends on a condition or on the number of items. -/
def Part.lineAfter? (atStart : Bool) : Part → Option Bool
  | .text s => if isQuiet atStart s.toList then some (lineState atStart s.toList) else none
  | .value _ _ => if atStart then none else some false
  | .choice _ yes no =>
    (partsLineAfter? atStart yes).bind fun next =>
      if partsLineAfter? atStart no = some next then some next else none
  | .each _ _ body => if partsLineAfter? atStart body = some atStart then some atStart else none

/-- Does a line begin after the parts? -/
def partsLineAfter? (atStart : Bool) : List Part → Option Bool
  | [] => some atStart
  | part :: rest => (part.lineAfter? atStart).bind fun next => partsLineAfter? next rest
end

/-- What is filled in for several values defines, one after the other, what is defined for each. -/
theorem definedNames_mapM {α : Type} {render : α → Option (List Char)} {names : α → List String}
    {atStart : Bool} {values : List α} {texts : List (List Char)}
    (htexts : values.mapM render = some texts)
    (h : ∀ value ∈ values, ∀ cs, render value = some cs → ∀ more,
      definedNames atStart (cs ++ more) = names value ++ definedNames atStart more)
    (more : List Char) :
    definedNames atStart (texts.flatten ++ more)
      = values.flatMap names ++ definedNames atStart more := by
  induction values generalizing texts with
  | nil =>
    cases htexts
    rfl
  | cons value rest ih =>
    rw [List.forall_mem_cons] at h
    rw [List.mapM_cons] at htexts
    obtain ⟨first, hfirst, htexts⟩ := Option.bind_eq_some_iff.mp htexts
    obtain ⟨others, hothers, htexts⟩ := Option.bind_eq_some_iff.mp htexts
    cases htexts
    rw [List.flatten_cons, List.append_assoc, h.1 first hfirst, ih hothers h.2, List.flatMap_cons,
      List.append_assoc]

mutual
theorem definedNames_chars? : (part : Part) → ∀ {scope : Scope} {atStart next : Bool}
    {cs : List Char}, scope.IsOneLine → part.lineAfter? atStart = some next →
    part.chars? scope = some cs → ∀ more,
    definedNames atStart (cs ++ more) = definedNames next more
  | .text s, scope, atStart, next, cs, hscope, hline, hcs, more => by
    rw [Part.lineAfter?] at hline
    rw [Part.chars?] at hcs
    cases hcs
    split_ifs at hline with hquiet
    cases hline
    exact definedNames_append hquiet more
  | .value path filter?, scope, atStart, next, cs, hscope, hline, hcs, more => by
    rw [Part.lineAfter?] at hline
    rw [Part.chars?] at hcs
    obtain ⟨value, hvalue, hshown⟩ := Option.map_eq_some_iff.mp hcs
    have honeline := hscope.find? hvalue
    have hnewline : '\n' ∉ cs := by
      subst hshown
      split
      · exact Filter.isOneLine_apply honeline _
      · exact Document.newline_not_mem_shownChars value honeline
    split_ifs at hline with hstart
    cases hline
    rw [Bool.not_eq_true] at hstart
    rw [hstart]
    exact definedNames_append_of_oneLine hnewline more
  | .choice condition yes no, scope, atStart, next, cs, hscope, hline, hcs, more => by
    rw [Part.lineAfter?] at hline
    rw [Part.chars?] at hcs
    obtain ⟨found, hyes, hline⟩ := Option.bind_eq_some_iff.mp hline
    split_ifs at hline with hno
    cases hline
    split_ifs at hcs
    · exact definedNames_partsChars? yes hscope hyes hcs more
    · exact definedNames_partsChars? no hscope hno hcs more
  | .each item path body, scope, atStart, next, cs, hscope, hline, hcs, more => by
    rw [Part.lineAfter?] at hline
    rw [Part.chars?] at hcs
    split_ifs at hline with hbody
    cases hline
    obtain ⟨values, hvalues, hcs⟩ := Option.bind_eq_some_iff.mp hcs
    obtain ⟨texts, htexts, rfl⟩ := Option.map_eq_some_iff.mp hcs
    obtain ⟨doc, hdoc, hvalues⟩ := Option.bind_eq_some_iff.mp hvalues
    have hall : definedNames atStart (texts.flatten ++ more)
        = (markLast values).flatMap (fun _ => []) ++ definedNames atStart more := by
      refine definedNames_mapM htexts (fun entry hentry cs hcs more => ?_) more
      have hmem : entry.1 ∈ values := map_fst_markLast values ▸ List.mem_map_of_mem hentry
      have hvalue := (hscope.find? hdoc).eachOf? hvalues entry.1 hmem
      exact definedNames_partsChars? body (hscope.enter ⟨item, entry.1, entry.2⟩ hvalue) hbody hcs
        more
    rw [hall, List.flatMap_eq_nil_iff.mpr fun _ _ => rfl, List.nil_append]

/-- Filling in parts defines nothing where their lines can be followed. -/
theorem definedNames_partsChars? : (parts : List Part) → ∀ {scope : Scope} {atStart next : Bool}
    {cs : List Char}, scope.IsOneLine → partsLineAfter? atStart parts = some next →
    partsChars? scope parts = some cs → ∀ more,
    definedNames atStart (cs ++ more) = definedNames next more
  | [], scope, atStart, next, cs, hscope, hline, hcs, more => by
    rw [partsLineAfter?] at hline
    rw [partsChars?] at hcs
    cases hline
    cases hcs
    rfl
  | part :: rest, scope, atStart, next, cs, hscope, hline, hcs, more => by
    rw [partsLineAfter?] at hline
    obtain ⟨middle, hpart, hrest⟩ := Option.bind_eq_some_iff.mp hline
    obtain ⟨first, others, hfirst, hothers, rfl⟩ := partsChars?_cons_eq_some.mp hcs
    rw [List.append_assoc, definedNames_chars? part hscope hpart hfirst,
      definedNames_partsChars? rest hscope hrest hothers]
end

end ApiTools
