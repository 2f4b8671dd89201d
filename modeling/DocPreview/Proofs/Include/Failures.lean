import DocPreview.Proofs.Include.ModeComparison

/-!
# Where failures stand

An include that fails leaves its complaint in one place of the resolved tree. A tree with a hole
describes the place: everything around the complaint, from the top down.
-/

set_option autoImplicit false

namespace DocPreview

/-- Nodes of which one place is left open, among them or below one of them. -/
inductive Hole where
  | here (before after : List Node)
  | inside (before : List Node) (name : String) (attributes : List (String × String))
      (hole : Hole) (after : List Node)

namespace Hole

def fill : Hole → List Node → List Node
  | .here before after, nodes => before ++ nodes ++ after
  | .inside before name attributes hole after, nodes =>
    before ++ .element name attributes (hole.fill nodes) :: after

def around (front : List Node) (hole : Hole) (back : List Node) : Hole :=
  match hole with
  | .here before after => .here (front ++ before) (after ++ back)
  | .inside before name attributes hole after =>
    .inside (front ++ before) name attributes hole (after ++ back)

theorem fill_around (front back : List Node) (hole : Hole) (nodes : List Node) :
    (hole.around front back).fill nodes = front ++ hole.fill nodes ++ back := by
  cases hole with
  | here before after => simp only [around, fill, List.append_assoc]
  | inside before name attributes hole after =>
      simp only [around, fill, List.append_assoc, List.cons_append]

end Hole

namespace Include

open Xml (Document)

/-- An include fails, and its complaint stands in the hole of the expanded nodes. -/
inductive FailsAt (setting : Setting) (documents : Location → Except Fault Document) :
    List Location → Option Path → List Node → Hole → Fault → Prop where
  | here {enclosing directory? attributes children nodes expanded fault} :
      selection setting documents enclosing directory? attributes = .error fault →
      Expansion setting documents enclosing directory? nodes expanded →
      FailsAt setting documents enclosing directory? (.element tag attributes children :: nodes)
        (.here [] expanded) fault
  | included {enclosing directory? attributes children location selected nodes hole expanded
        fault} :
      selection setting documents enclosing directory? attributes = .ok (location, selected) →
      FailsAt setting documents (location :: enclosing) (some (directoryOf location)) selected
        hole fault →
      Expansion setting documents enclosing directory? nodes expanded →
      FailsAt setting documents enclosing directory? (.element tag attributes children :: nodes)
        (hole.around [] expanded) fault
  | nested {enclosing directory? name attributes children nodes hole expanded fault} :
      name ≠ tag →
      FailsAt setting documents enclosing directory? children hole fault →
      Expansion setting documents enclosing directory? nodes expanded →
      FailsAt setting documents enclosing directory? (.element name attributes children :: nodes)
        (.inside [] name attributes hole expanded) fault
  | later {enclosing directory? node nodes first hole fault} :
      Expansion setting documents enclosing directory? [node] first →
      FailsAt setting documents enclosing directory? nodes hole fault →
      FailsAt setting documents enclosing directory? (node :: nodes) (hole.around first []) fault

section

variable {setting : Setting} {documents : Location → Except Fault Document}
  {enclosing : List Location} {directory? : Option Path}

theorem Expansion.append {left leftExpanded right rightExpanded : List Node}
    (first : Expansion setting documents enclosing directory? left leftExpanded)
    (second : Expansion setting documents enclosing directory? right rightExpanded) :
    Expansion setting documents enclosing directory? (left ++ right)
      (leftExpanded ++ rightExpanded) := by
  induction first with
  | nil => exact second
  | text _ ih => exact .text (ih second)
  | element ordinary inside _ _ ih => exact .element ordinary inside (ih second)
  | failed failed _ ih => exact .failed failed (ih second)
  | replaced selects spliced filled _ _ ih =>
      rw [List.append_assoc]
      exact .replaced selects spliced filled (ih second)

/-- What nodes expand to is determined. -/
theorem Expansion.unique {nodes first second : List Node}
    (one : Expansion setting documents enclosing directory? nodes first)
    (other : Expansion setting documents enclosing directory? nodes second) : first = second := by
  induction one generalizing second with
  | nil =>
      cases other
      rfl
  | text _ ih =>
      cases other with
      | text rest => rw [ih rest]
  | element ordinary _ _ insideIH restIH =>
      cases other with
      | element _ inside rest => rw [insideIH inside, restIH rest]
      | failed _ _ => exact absurd rfl ordinary
      | replaced _ _ _ _ => exact absurd rfl ordinary
  | failed failed _ ih =>
      cases other with
      | element ordinary _ _ => exact absurd rfl ordinary
      | failed alike rest =>
          rw [failed] at alike
          cases alike
          rw [ih rest]
      | replaced selects _ _ _ =>
          rw [failed] at selects
          cases selects
  | replaced selects _ _ _ splicedIH restIH =>
      cases other with
      | element ordinary _ _ => exact absurd rfl ordinary
      | failed failed _ =>
          rw [selects] at failed
          cases failed
      | replaced alike spliced _ rest =>
          rw [selects] at alike
          cases alike
          rw [splicedIH spliced, restIH rest]

theorem selection_ne_nil {attributes : List (String × String)} {location : Location}
    {selected : List Node}
    (selects :
      selection setting documents enclosing directory? attributes = .ok (location, selected)) :
    selected ≠ [] := by
  obtain ⟨_, _, _, matched⟩ := selection_eq_ok selects
  exact matching_ne_nil matched

/-- The complaint in the hole completes the expansion. -/
theorem FailsAt.expansion {nodes : List Node} {hole : Hole} {fault : Fault}
    (fails : FailsAt setting documents enclosing directory? nodes hole fault) :
    Expansion setting documents enclosing directory? nodes (hole.fill [fault.node]) := by
  induction fails with
  | here failed rest => exact .failed failed rest
  | included selects _ rest ih =>
      rw [Hole.fill_around]
      exact .replaced selects ih (ih.ne_nil (selection_ne_nil selects)) rest
  | nested ordinary _ rest ih => exact .element ordinary ih rest
  | later first _ ih =>
      rw [Hole.fill_around, List.append_nil]
      exact first.append ih

/-- The expansion of nodes within expanded nodes. -/
theorem Expansion.of_cons {node : Node} {nodes expanded : List Node}
    (expansion : Expansion setting documents enclosing directory? (node :: nodes) expanded) :
    ∃ first rest, Expansion setting documents enclosing directory? [node] first ∧
      Expansion setting documents enclosing directory? nodes rest := by
  cases expansion with
  | text rest => exact ⟨_, _, .text .nil, rest⟩
  | element ordinary inside rest => exact ⟨_, _, .element ordinary inside .nil, rest⟩
  | failed failed rest => exact ⟨_, _, .failed failed .nil, rest⟩
  | replaced selects spliced filled rest =>
      exact ⟨_, _, .replaced selects spliced filled .nil, rest⟩

/-- Whatever fails while nodes are expanded leaves its complaint somewhere. -/
theorem Fails.exists_hole {nodes : List Node} {fault : Fault}
    (fails : Fails setting documents enclosing directory? nodes fault) {expanded : List Node}
    (expansion : Expansion setting documents enclosing directory? nodes expanded) :
    ∃ hole, FailsAt setting documents enclosing directory? nodes hole fault := by
  induction fails generalizing expanded with
  | here failed =>
      obtain ⟨_, rest, _, restExpansion⟩ := expansion.of_cons
      exact ⟨.here [] rest, .here failed restExpansion⟩
  | included selects _ ih =>
      obtain ⟨_, rest, _, restExpansion⟩ := expansion.of_cons
      cases expansion with
      | element ordinary _ _ => exact absurd rfl ordinary
      | failed failed _ =>
          rw [selects] at failed
          cases failed
      | replaced alike spliced _ _ =>
          rw [selects] at alike
          cases alike
          obtain ⟨hole, inside⟩ := ih spliced
          exact ⟨hole.around [] rest, .included selects inside restExpansion⟩
  | nested ordinary _ ih =>
      obtain ⟨_, rest, _, restExpansion⟩ := expansion.of_cons
      cases expansion with
      | element _ insideExpansion _ =>
          obtain ⟨hole, inside⟩ := ih insideExpansion
          exact ⟨.inside [] _ _ hole rest, .nested ordinary inside restExpansion⟩
      | failed _ _ => exact absurd rfl ordinary
      | replaced _ _ _ _ => exact absurd rfl ordinary
  | later _ ih =>
      obtain ⟨first, _, firstExpansion, restExpansion⟩ := expansion.of_cons
      obtain ⟨hole, inside⟩ := ih restExpansion
      exact ⟨hole.around first [], .later firstExpansion inside⟩

end

/-- Every failure of a new resolver has its place in what it makes. -/
theorem resolve_fill (setting : Setting) (source? : Option Path) (root : Element)
    (expanding : setting.mode ≠ .none) :
    (∀ fault, Fails setting (readDocument setting.files) [] (source?.bind Path.parent?)
        root.children fault →
      ∃ hole, FailsAt setting (readDocument setting.files) [] (source?.bind Path.parent?)
        root.children hole fault) ∧
    ∀ hole fault, FailsAt setting (readDocument setting.files) [] (source?.bind Path.parent?)
        root.children hole fault →
      (Cache.resolve setting source? root {}).1 =
        { root with children := hole.fill [fault.node] } := by
  obtain ⟨children, resolved, expansion⟩ := resolve_new_expansion setting source? root expanding
  constructor
  · intro fault fails
    exact fails.exists_hole expansion
  · intro hole fault fails
    rw [resolved, expansion.unique fails.expansion]

end Include

end DocPreview
