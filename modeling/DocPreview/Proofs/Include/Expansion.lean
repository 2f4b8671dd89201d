import DocPreview.Proofs.Comment.Subtree
import DocPreview.Proofs.Include.DocumentView

/-!
# The expansion of includes as a relation

Which nodes stand for which is said here without the order of work: texts stay, elements keep
their name and attributes, and an include becomes its failure or the expansion of what it
selects, seen from the file that it selects from.
-/

set_option autoImplicit false

namespace DocPreview

namespace Include

open Xml (Document)

def IsInclude (node : Node) : Prop :=
  ∃ attributes children, node = .element tag attributes children

def NoIncludes (nodes : List Node) : Prop :=
  ∀ node ∈ Node.subtrees nodes, ¬ IsInclude node

@[simp] theorem noIncludes_nil : NoIncludes [] := by
  simp [NoIncludes]

theorem noIncludes_text_cons {content : String} {nodes : List Node} :
    NoIncludes (.text content :: nodes) ↔ NoIncludes nodes := by
  simp [NoIncludes, Node.subtrees_cons, Node.subtree, IsInclude]

theorem noIncludes_element_cons {name : String} {attributes : List (String × String)}
    {children nodes : List Node} :
    NoIncludes (.element name attributes children :: nodes) ↔
      name ≠ tag ∧ NoIncludes children ∧ NoIncludes nodes := by
  simp only [NoIncludes, Node.subtrees_cons, Node.subtree, List.cons_append, List.mem_cons,
    List.mem_append, or_imp, forall_and]
  simp [IsInclude]

theorem noIncludes_append {left right : List Node} :
    NoIncludes (left ++ right) ↔ NoIncludes left ∧ NoIncludes right := by
  simp only [NoIncludes, Node.subtrees_append, List.mem_append, or_imp, forall_and]

theorem noIncludes_fault (fault : Fault) : NoIncludes [fault.node] := by
  rw [Fault.node, Node.error, noIncludes_element_cons, noIncludes_text_cons]
  exact ⟨by decide, noIncludes_nil, noIncludes_nil⟩

/-! ## Trees without includes -/

section

variable {m : Type → Type} [Monad m] [LawfulMonad m]

mutual

theorem expandNode_of_noIncludes (onInclude : List (String × String) → m (List Node)) :
    ∀ node, NoIncludes [node] → expandNode onInclude node = pure [node]
  | .text content, _ => by
      simp only [expandNode]
  | .element name attributes children, clean => by
      obtain ⟨ordinary, below, _⟩ := noIncludes_element_cons.mp clean
      simp only [expandNode, ordinary, ↓reduceIte,
        expandNodes_of_noIncludes onInclude children below, pure_bind]

theorem expandNodes_of_noIncludes (onInclude : List (String × String) → m (List Node)) :
    ∀ nodes, NoIncludes nodes → expandNodes onInclude nodes = pure nodes
  | [], _ => by
      simp only [expandNodes]
  | node :: nodes, clean => by
      obtain ⟨first, rest⟩ := noIncludes_append.mp (show NoIncludes ([node] ++ nodes) from clean)
      simp only [expandNodes, expandNode_of_noIncludes onInclude node first,
        expandNodes_of_noIncludes onInclude nodes rest, pure_bind, List.cons_append,
        List.nil_append]

end

theorem resolveWith_of_noIncludes (setting : Setting)
    (load : Location → m (Except Fault Document)) (source? : Option Path) {root : Element}
    (clean : NoIncludes root.children) : resolveWith setting load source? root = pure root := by
  unfold resolveWith
  split
  · rfl
  · simp only [expandNodes_of_noIncludes _ root.children clean, pure_bind]

end

/-! ## The relation -/

/-- The file that an include selects from and the nodes that it selects there, or why it cannot
be replaced. -/
def selection (setting : Setting) (documents : Location → Except Fault Document)
    (enclosing : List Location) (directory? : Option Path)
    (attributes : List (String × String)) : Except Fault (Location × List Node) := do
  let (location, query) ← setting.target enclosing directory? attributes
  if nestingLimit ≤ enclosing.length then .error (.tooDeep nestingLimit)
  else
    let nodes ← Id.run (matching (fun location => pure (documents location)) location query)
    return (location, nodes)

/-- The second nodes are the first with their includes replaced, when the files `enclosing` are
being expanded and relative names are looked up from `directory?`. -/
inductive Expansion (setting : Setting) (documents : Location → Except Fault Document) :
    List Location → Option Path → List Node → List Node → Prop where
  | nil {enclosing directory?} : Expansion setting documents enclosing directory? [] []
  | text {enclosing directory? content nodes expanded} :
      Expansion setting documents enclosing directory? nodes expanded →
      Expansion setting documents enclosing directory?
        (.text content :: nodes) (.text content :: expanded)
  | element {enclosing directory? name attributes children inside nodes expanded} :
      name ≠ tag →
      Expansion setting documents enclosing directory? children inside →
      Expansion setting documents enclosing directory? nodes expanded →
      Expansion setting documents enclosing directory?
        (.element name attributes children :: nodes) (.element name attributes inside :: expanded)
  | failed {enclosing directory? attributes children fault nodes expanded} :
      selection setting documents enclosing directory? attributes = .error fault →
      Expansion setting documents enclosing directory? nodes expanded →
      Expansion setting documents enclosing directory?
        (.element tag attributes children :: nodes) (fault.node :: expanded)
  | replaced {enclosing directory? attributes children location selected spliced nodes expanded} :
      selection setting documents enclosing directory? attributes = .ok (location, selected) →
      Expansion setting documents (location :: enclosing) (some (directoryOf location))
        selected spliced →
      spliced ≠ [] →
      Expansion setting documents enclosing directory? nodes expanded →
      Expansion setting documents enclosing directory?
        (.element tag attributes children :: nodes) (spliced ++ expanded)

section

variable {setting : Setting} {documents : Location → Except Fault Document}
  {enclosing : List Location} {directory? : Option Path}

/-- Neither a failure nor what replaces an include brings an include back. -/
theorem Expansion.noIncludes {nodes expanded : List Node}
    (expansion : Expansion setting documents enclosing directory? nodes expanded) :
    NoIncludes expanded := by
  induction expansion with
  | nil => exact noIncludes_nil
  | text _ ih => exact noIncludes_text_cons.mpr ih
  | element ordinary _ _ insideIH restIH =>
      exact noIncludes_element_cons.mpr ⟨ordinary, insideIH, restIH⟩
  | @failed _ _ _ _ fault _ _ _ _ restIH =>
      exact noIncludes_append.mpr ⟨noIncludes_fault fault, restIH⟩
  | replaced _ _ _ _ splicedIH restIH => exact noIncludes_append.mpr ⟨splicedIH, restIH⟩

theorem Expansion.ne_nil {nodes expanded : List Node}
    (expansion : Expansion setting documents enclosing directory? nodes expanded)
    (nonempty : nodes ≠ []) : expanded ≠ [] := by
  cases expansion with
  | nil => exact absurd rfl nonempty
  | text _ => simp
  | element _ _ _ => simp
  | failed _ _ => simp
  | replaced _ _ filled _ => simp [filled]

/-- A query that matches nothing is a failure, so what matches is something. -/
theorem matching_ne_nil {location : Location} {query : String} {selected : List Node}
    (matched : (matching (fun location => pure (documents location)) location query : Id _) =
      .ok selected) : selected ≠ [] := by
  simp only [matching, bind, pure] at matched
  cases loaded : documents location with
  | error fault => simp [loaded] at matched
  | ok document =>
      cases found : selectNodes document query with
      | error fault => simp [loaded, found] at matched
      | ok nodes =>
          cases nodes with
          | nil => simp [loaded, found] at matched
          | cons node nodes =>
              simp only [loaded, found] at matched
              cases matched
              exact List.cons_ne_nil node nodes

/-- All that has to go right for an include to select something. -/
theorem selection_eq_ok {attributes : List (String × String)} {location : Location}
    {selected : List Node}
    (selects :
      selection setting documents enclosing directory? attributes = .ok (location, selected)) :
    ∃ query, setting.target enclosing directory? attributes = .ok (location, query) ∧
      enclosing.length < nestingLimit ∧
      (matching (fun location => pure (documents location)) location query : Id _) =
        .ok selected := by
  unfold selection at selects
  cases target : setting.target enclosing directory? attributes with
  | error fault => simp [target, bind, Except.bind] at selects
  | ok found =>
      obtain ⟨file, query⟩ := found
      simp only [target, bind, Except.bind] at selects
      split at selects
      · cases selects
      · rename_i room
        split at selects
        · cases selects
        · rename_i matched
          cases selects
          exact ⟨query, rfl, Nat.lt_of_not_le room, matched⟩

/-- One more file around an include leaves one level less below it. The levels that are left and
the files around are as many as may enclose each other. -/
theorem replacement_eq (setting : Setting) (documents : Location → Except Fault Document)
    (levels : Nat) (enclosing : List Location) (directory? : Option Path)
    (attributes : List (String × String)) (balanced : levels + enclosing.length = nestingLimit) :
    (replacement setting (fun location => pure (documents location)) levels enclosing directory?
        attributes : Id (List Node)) =
      match selection setting documents enclosing directory? attributes with
      | .error fault => [fault.node]
      | .ok (location, selected) =>
        (expandNodes (replacement setting (fun location => pure (documents location))
          (levels - 1) (location :: enclosing) (some (directoryOf location))) selected : Id _) := by
  unfold replacement selection
  cases setting.target enclosing directory? attributes with
  | error fault => rfl
  | ok found =>
      obtain ⟨location, query⟩ := found
      cases levels with
      | zero =>
          have full : nestingLimit ≤ enclosing.length := by omega
          simp only [bind, Except.bind, full, ↓reduceIte]
          rfl
      | succ levels =>
          have room : ¬ nestingLimit ≤ enclosing.length := by omega
          simp only [bind, Except.bind, room, ↓reduceIte, Id.run]
          cases (matching (fun location => pure (documents location)) location query : Id _) with
          | error fault => rfl
          | ok selected => rfl

mutual

/-- If an include may be put in front of every expansion, so may each node. -/
theorem expandNode_expansion {onInclude : List (String × String) → Id (List Node)}
    (spliced : ∀ {attributes children nodes expanded},
      Expansion setting documents enclosing directory? nodes expanded →
      Expansion setting documents enclosing directory? (.element tag attributes children :: nodes)
        (Id.run (onInclude attributes) ++ expanded)) :
    ∀ (node : Node) {nodes expanded : List Node},
      Expansion setting documents enclosing directory? nodes expanded →
      Expansion setting documents enclosing directory? (node :: nodes)
        (Id.run (expandNode onInclude node) ++ expanded)
  | .text content, _, _, rest => by
      simp only [expandNode]
      exact .text rest
  | .element name attributes children, _, _, rest => by
      simp only [expandNode]
      split
      · rename_i isInclude
        subst isInclude
        exact spliced rest
      · rename_i ordinary
        exact .element ordinary (expandNodes_expansion spliced children) rest

theorem expandNodes_expansion {onInclude : List (String × String) → Id (List Node)}
    (spliced : ∀ {attributes children nodes expanded},
      Expansion setting documents enclosing directory? nodes expanded →
      Expansion setting documents enclosing directory? (.element tag attributes children :: nodes)
        (Id.run (onInclude attributes) ++ expanded)) :
    ∀ nodes, Expansion setting documents enclosing directory? nodes
      (Id.run (expandNodes onInclude nodes))
  | [] => by
      simp only [expandNodes]
      exact .nil
  | node :: nodes => by
      simp only [expandNodes]
      exact expandNode_expansion spliced node (expandNodes_expansion spliced nodes)

end

/-- What replaces an include may be put in front of every expansion, by induction on how many
more files may enclose it. -/
theorem replacement_expansion (setting : Setting)
    (documents : Location → Except Fault Document) (levels : Nat) (enclosing : List Location)
    (directory? : Option Path) (balanced : levels + enclosing.length = nestingLimit)
    {attributes : List (String × String)} {children nodes expanded : List Node}
    (rest : Expansion setting documents enclosing directory? nodes expanded) :
    Expansion setting documents enclosing directory? (.element tag attributes children :: nodes)
      (Id.run (replacement setting (fun location => pure (documents location)) levels enclosing
        directory? attributes) ++ expanded) := by
  induction levels generalizing enclosing directory? attributes children nodes expanded with
  | zero =>
      rw [replacement_eq setting documents 0 enclosing directory? attributes balanced]
      cases selects : selection setting documents enclosing directory? attributes with
      | error fault => exact .failed selects rest
      | ok found =>
          obtain ⟨_, _, room, _⟩ := selection_eq_ok selects
          omega
  | succ levels ih =>
      rw [replacement_eq setting documents (levels + 1) enclosing directory? attributes balanced]
      cases selects : selection setting documents enclosing directory? attributes with
      | error fault => exact .failed selects rest
      | ok found =>
          obtain ⟨location, selected⟩ := found
          obtain ⟨_, _, _, matched⟩ := selection_eq_ok selects
          have inside := expandNodes_expansion
            (ih (location :: enclosing) (some (directoryOf location))
              (by simp only [List.length_cons]; omega)) selected
          exact .replaced selects inside (inside.ne_nil (matching_ne_nil matched)) rest

theorem resolveFrom_expansion (setting : Setting)
    (documents : Location → Except Fault Document) (source? : Option Path) (root : Element)
    (expanding : setting.mode ≠ .none) :
    ∃ children, resolveFrom setting documents source? root = { root with children } ∧
      Expansion setting documents [] (source?.bind Path.parent?) root.children children := by
  refine ⟨_, ?_, expandNodes_expansion
    (replacement_expansion setting documents nestingLimit [] (source?.bind Path.parent?) rfl)
    root.children⟩
  unfold resolveFrom resolveWith
  split
  · contradiction
  · rfl

end

/-- In every mode that expands at all and with any cache, what is resolved holds no include, its
children are the expansion of the original ones over what the cache and the files show, and
resolving it once more, with whatever files and cache, gives it back. -/
theorem resolve_expands_all (setting : Setting) (source? : Option Path) (root : Element)
    (cache : Cache) (expanding : setting.mode ≠ .none) :
    let resolved := (Cache.resolve setting source? root cache).1
    (∀ node ∈ resolved.descendants, ¬ IsInclude node) ∧
    resolved.name = root.name ∧ resolved.attributes = root.attributes ∧
    Expansion setting (cache.view setting.files) [] (source?.bind Path.parent?)
      root.children resolved.children ∧
    ∀ later otherSource? otherCache,
      Cache.resolve later otherSource? resolved otherCache = (resolved, otherCache) := by
  intro resolved
  obtain ⟨children, shape, expansion⟩ :=
    resolveFrom_expansion setting (cache.view setting.files) source? root expanding
  have found : resolved = { root with children } := by
    rw [← shape]
    exact (cache.resolve_of_invariant setting (fun _ => True) (fun _ _ _ => trivial) source? root
      trivial).1
  have clean : NoIncludes resolved.children := by
    rw [found]
    exact expansion.noIncludes
  refine ⟨clean, by rw [found], by rw [found], by rw [found]; exact expansion, ?_⟩
  intro later otherSource? otherCache
  exact congrFun (resolveWith_of_noIncludes later (Cache.load later.files) otherSource? clean)
    otherCache

/-- A file that includes itself: what is left of the include below the text is a complaint. -/
theorem resolve_expands_all_self_including_file :
    let files : FileTree :=
      ⟨[], [(["d.xml"], .file ⟨some "<d><include file='d.xml' path='d/*'/></d>", 1⟩)]⟩
    let root : Element :=
      { name := "member",
        children := [.text "a", .element "include" [("file", "d.xml"), ("path", "d/*")] []] }
    (IncludeMode.absolute ≠ .none) ∧
      ∀ node ∈ (Cache.resolve ⟨files, .absolute⟩ none root {}).1.descendants, ¬ IsInclude node := by
  intro files root
  have expanding : IncludeMode.absolute ≠ .none := by decide
  exact ⟨expanding, (resolve_expands_all ⟨files, .absolute⟩ none root {} expanding).1⟩

end Include

end DocPreview
