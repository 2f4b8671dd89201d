import DocPreview.Proofs.Include.Expansion

/-!
# The relative mode only adds

The relative mode looks for a file where the absolute mode does, and elsewhere only if it is not
there. So it replaces some of the complaints that a file is not found, and changes nothing else.
-/

set_option autoImplicit false

namespace DocPreview.Include

open Xml (Document)

/-- An include among the nodes, or in what replaces one of them, fails. -/
inductive Fails (setting : Setting) (documents : Location → Except Fault Document) :
    List Location → Option Path → List Node → Fault → Prop where
  | here {enclosing directory? attributes children nodes fault} :
      selection setting documents enclosing directory? attributes = .error fault →
      Fails setting documents enclosing directory? (.element tag attributes children :: nodes) fault
  | included {enclosing directory? attributes children location selected nodes fault} :
      selection setting documents enclosing directory? attributes = .ok (location, selected) →
      Fails setting documents (location :: enclosing) (some (directoryOf location)) selected
        fault →
      Fails setting documents enclosing directory? (.element tag attributes children :: nodes) fault
  | nested {enclosing directory? name attributes children nodes fault} :
      name ≠ tag →
      Fails setting documents enclosing directory? children fault →
      Fails setting documents enclosing directory? (.element name attributes children :: nodes)
        fault
  | later {enclosing directory? node nodes fault} :
      Fails setting documents enclosing directory? nodes fault →
      Fails setting documents enclosing directory? (node :: nodes) fault

section

variable {setting : Setting} {documents : Location → Except Fault Document}
  {enclosing : List Location} {directory? : Option Path} {attributes : List (String × String)}
  {children nodes : List Node} {fault : Fault}

theorem not_fails_nil : ¬ Fails setting documents enclosing directory? [] fault := by
  intro fails
  cases fails

theorem Fails.of_element {name : String} (ordinary : name ≠ tag)
    (fails : Fails setting documents enclosing directory?
      (.element name attributes children :: nodes) fault) :
    Fails setting documents enclosing directory? children fault ∨
      Fails setting documents enclosing directory? nodes fault := by
  cases fails with
  | here _ => exact absurd rfl ordinary
  | included _ _ => exact absurd rfl ordinary
  | nested _ inside => exact .inl inside
  | later rest => exact .inr rest

theorem Fails.of_failed {own : Fault}
    (failed : selection setting documents enclosing directory? attributes = .error own)
    (fails : Fails setting documents enclosing directory?
      (.element tag attributes children :: nodes) fault) :
    fault = own ∨ Fails setting documents enclosing directory? nodes fault := by
  cases fails with
  | here alike =>
      rw [failed] at alike
      cases alike
      exact .inl rfl
  | included selects _ =>
      rw [failed] at selects
      cases selects
  | nested ordinary _ => exact absurd rfl ordinary
  | later rest => exact .inr rest

end

/-- The second nodes are the first with other nodes in the place of some complaints that a file is
not found, each about one of the missing files. -/
inductive FilledIn (missing : String → Prop) : List Node → List Node → Prop where
  | nil : FilledIn missing [] []
  | text {content narrow wide} :
      FilledIn missing narrow wide →
      FilledIn missing (.text content :: narrow) (.text content :: wide)
  | element {name attributes inside insideWide narrow wide} :
      FilledIn missing inside insideWide →
      FilledIn missing narrow wide →
      FilledIn missing (.element name attributes inside :: narrow)
        (.element name attributes insideWide :: wide)
  | filled {file filling narrow wide} :
      missing file →
      FilledIn missing narrow wide →
      FilledIn missing ((Fault.notFound file).node :: narrow) (filling ++ wide)

namespace FilledIn

variable {missing : String → Prop}

mutual

theorem keep {narrow wide : List Node} (filled : FilledIn missing narrow wide) :
    ∀ node, FilledIn missing (node :: narrow) (node :: wide)
  | .text _ => .text filled
  | .element _ _ children => .element (refl children) filled

theorem refl : ∀ nodes, FilledIn missing nodes nodes
  | [] => .nil
  | node :: nodes => (refl nodes).keep node

end

theorem append {left leftWide right rightWide : List Node}
    (first : FilledIn missing left leftWide) (second : FilledIn missing right rightWide) :
    FilledIn missing (left ++ right) (leftWide ++ rightWide) := by
  induction first with
  | nil => exact second
  | text _ ih => exact .text ih
  | element inside _ _ ih => exact .element inside ih
  | filled absent _ ih =>
      rw [List.append_assoc]
      exact .filled absent ih

theorem mono {more : String → Prop} {narrow wide : List Node}
    (filled : FilledIn missing narrow wide) (included : ∀ file, missing file → more file) :
    FilledIn more narrow wide := by
  induction filled with
  | nil => exact .nil
  | text _ ih => exact .text ih
  | element _ _ insideIH ih => exact .element insideIH ih
  | filled absent _ ih => exact .filled (included _ absent) ih

/-- Where no file is missing there is nothing to fill in. -/
theorem eq_of_none_missing {narrow wide : List Node} (filled : FilledIn missing narrow wide)
    (none : ∀ file, ¬ missing file) : wide = narrow := by
  induction filled with
  | nil => rfl
  | text _ ih => rw [ih]
  | element _ _ insideIH ih => rw [insideIH, ih]
  | filled absent _ _ => exact absurd absent (none _)

end FilledIn

section

variable {files : FileTree} {documents : Location → Except Fault Document}
  {enclosing : List Location}

/-- What is found from the working directory is found there in both modes. -/
theorem locate_relative (files : FileTree) (directory? other? : Option Path) (file : String) :
    Setting.locate ⟨files, .absolute⟩ directory? file = .error (.notFound file) ∨
      Setting.locate ⟨files, .relative⟩ other? file =
        Setting.locate ⟨files, .absolute⟩ directory? file := by
  unfold Setting.locate
  cases found : files.locateFile? ((Path.ofText file).absolute files.workingDirectory) with
  | none =>
      left
      simp only [found]
  | some location =>
      right
      simp only [found]

theorem selection_relative (files : FileTree) (documents : Location → Except Fault Document)
    (enclosing : List Location) (directory? other? : Option Path)
    (attributes : List (String × String)) :
    (∃ file, selection ⟨files, .absolute⟩ documents enclosing directory? attributes =
      .error (.notFound file)) ∨
    selection ⟨files, .relative⟩ documents enclosing other? attributes =
      selection ⟨files, .absolute⟩ documents enclosing directory? attributes := by
  unfold selection Setting.target
  cases requiredAttribute attributes "file" with
  | error fault => exact .inr rfl
  | ok file =>
      cases requiredAttribute attributes "path" with
      | error fault => exact .inr rfl
      | ok query =>
          simp only [bind, Except.bind]
          rcases locate_relative files directory? other? file with absent | same
          · rw [absent]
            exact .inl ⟨file, rfl⟩
          · rw [same]
            exact .inr rfl

/-- What replaces an include at the head stands before the expansion of the rest. -/
theorem Expansion.tail {setting : Setting} {directory? : Option Path}
    {attributes : List (String × String)} {children nodes expanded : List Node}
    (expansion : Expansion setting documents enclosing directory?
      (.element tag attributes children :: nodes) expanded) :
    ∃ filling rest, expanded = filling ++ rest ∧
      Expansion setting documents enclosing directory? nodes rest := by
  cases expansion with
  | element ordinary _ _ => exact absurd rfl ordinary
  | @failed _ _ _ _ fault _ rest _ restExpansion => exact ⟨[fault.node], rest, rfl, restExpansion⟩
  | @replaced _ _ _ _ _ _ spliced _ rest _ _ _ restExpansion =>
      exact ⟨spliced, rest, rfl, restExpansion⟩

/-- By induction on the expansion in the absolute mode. Both modes have the same files around an
include that is not below a filled complaint, which is why they find the same cycles. -/
theorem Expansion.filledIn {directory? : Option Path} {nodes narrow : List Node}
    (absolute : Expansion ⟨files, .absolute⟩ documents enclosing directory? nodes narrow)
    {other? : Option Path} {wide : List Node}
    (relative : Expansion ⟨files, .relative⟩ documents enclosing other? nodes wide) :
    FilledIn
      (fun file => Fails ⟨files, .absolute⟩ documents enclosing directory? nodes (.notFound file))
      narrow wide := by
  induction absolute generalizing other? wide with
  | nil =>
      cases relative
      exact .nil
  | text _ ih =>
      cases relative with
      | text rest => exact .text ((ih rest).mono fun _ => .later)
  | element ordinary _ _ insideIH restIH =>
      cases relative with
      | element _ inside rest =>
          exact .element ((insideIH inside).mono fun _ => .nested ordinary)
            ((restIH rest).mono fun _ => .later)
      | failed _ _ => exact absurd rfl ordinary
      | replaced _ _ _ _ => exact absurd rfl ordinary
  | @failed enclosing directory? attributes children fault _ _ failed _ restIH =>
      rcases selection_relative files documents enclosing directory? other? attributes with
        ⟨file, absent⟩ | same
      · rw [absent] at failed
        cases failed
        obtain ⟨filling, rest, rfl, restExpansion⟩ := relative.tail
        exact .filled (.here absent) ((restIH restExpansion).mono fun _ => .later)
      · rw [failed] at same
        cases relative with
        | element ordinary _ _ => exact absurd rfl ordinary
        | failed alike rest =>
            rw [same] at alike
            cases alike
            exact ((restIH rest).mono fun _ => .later).keep _
        | replaced selects _ _ _ =>
            rw [same] at selects
            cases selects
  | @replaced enclosing directory? attributes _ _ _ _ _ _ selects _ _ _ splicedIH restIH =>
      rcases selection_relative files documents enclosing directory? other? attributes with
        ⟨file, absent⟩ | same
      · rw [absent] at selects
        cases selects
      · have selected := same.trans selects
        cases relative with
        | element ordinary _ _ => exact absurd rfl ordinary
        | failed failed _ =>
            rw [selected] at failed
            cases failed
        | replaced alike spliced _ rest =>
            rw [selected] at alike
            cases alike
            exact ((splicedIH spliced).mono fun _ => .included selects).append
              ((restIH rest).mono fun _ => .later)

end

/-- A new resolver expands over what the files hold. -/
theorem resolve_new_expansion (setting : Setting) (source? : Option Path) (root : Element)
    (expanding : setting.mode ≠ .none) :
    ∃ children, (Cache.resolve setting source? root {}).1 = { root with children } ∧
      Expansion setting (readDocument setting.files) [] (source?.bind Path.parent?) root.children
        children := by
  have resolved := (Cache.resolve_of_invariant setting (fun _ => True) (fun _ _ _ => trivial)
    source? root {} trivial).1
  rw [Cache.view_empty] at resolved
  rw [resolved]
  exact resolveFrom_expansion setting (readDocument setting.files) source? root expanding

/-- What a new resolver makes of an element in the relative mode is what one makes of it in the
absolute mode, whatever the source files, with other nodes in the place of some complaints that a
file is not found. If no include fails so in the absolute mode, both make the same. -/
theorem resolve_relative_fills (files : FileTree) (source? other? : Option Path)
    (root : Element) :
    let absolute := (Cache.resolve ⟨files, .absolute⟩ source? root {}).1
    let relative := (Cache.resolve ⟨files, .relative⟩ other? root {}).1
    let missing := fun file => Fails ⟨files, .absolute⟩ (readDocument files) []
      (source?.bind Path.parent?) root.children (.notFound file)
    relative.name = absolute.name ∧ relative.attributes = absolute.attributes ∧
      FilledIn missing absolute.children relative.children ∧
      ((∀ file, ¬ missing file) → relative = absolute) := by
  intro absolute relative missing
  obtain ⟨narrow, absoluteIs, narrowExpansion⟩ :=
    resolve_new_expansion ⟨files, .absolute⟩ source? root (by simp)
  obtain ⟨wide, relativeIs, wideExpansion⟩ :=
    resolve_new_expansion ⟨files, .relative⟩ other? root (by simp)
  have absoluteMade : absolute = { root with children := narrow } := absoluteIs
  have relativeMade : relative = { root with children := wide } := relativeIs
  have filled : FilledIn missing narrow wide := narrowExpansion.filledIn wideExpansion
  rw [absoluteMade, relativeMade]
  refine ⟨rfl, rfl, filled, fun none => ?_⟩
  rw [filled.eq_of_none_missing none]

/-- Below an element, an include whose file is there but holds no text, and beside the element one
that asks for nothing. -/
theorem resolve_relative_fills_found_file :
    let files : FileTree := ⟨[], [(["d.xml"], .file ⟨none, 1⟩)]⟩
    let root : Element :=
      { name := "member",
        children :=
          [.element "para" [] [.element tag [("file", "d.xml"), ("path", "d/*")] []],
            .element tag [("file", "e.xml")] []] }
    let source? := some (Path.ofText "/src/Widget.cs")
    (∀ file, ¬ Fails ⟨files, .absolute⟩ (readDocument files) [] none root.children
      (.notFound file)) ∧
    (Cache.resolve ⟨files, .relative⟩ source? root {}).1 =
      (Cache.resolve ⟨files, .absolute⟩ none root {}).1 := by
  intro files root source?
  have found : ∀ file, ¬ Fails ⟨files, .absolute⟩ (readDocument files) [] none root.children
      (.notFound file) := by
    have unreadable : selection ⟨files, .absolute⟩ (readDocument files) [] none
        [("file", "d.xml"), ("path", "d/*")] = .error (.unreadable ["d.xml"] .notText) := rfl
    have unasked : selection ⟨files, .absolute⟩ (readDocument files) [] none
        [("file", "e.xml")] = .error (.missingAttribute "path") := rfl
    intro file fails
    rcases fails.of_element (by decide) with inside | beside
    · rcases inside.of_failed unreadable with same | rest
      · cases same
      · exact not_fails_nil rest
    · rcases beside.of_failed unasked with same | rest
      · cases same
      · exact not_fails_nil rest
  exact ⟨found, (resolve_relative_fills files none source? root).2.2.2 found⟩

end DocPreview.Include
