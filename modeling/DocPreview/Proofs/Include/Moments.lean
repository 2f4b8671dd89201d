import DocPreview.Proofs.Include.Expansion
import Mathlib.Logic.Relation

/-!
# Expansion step by step

Here the files being expanded stand on one explicit stack, and the work that is left on another.
An include that selects something pushes its file, and the end of what it selects pops it again.
The recursive expansion is what these steps make, and it leaves the stack as it found it.
-/

set_option autoImplicit false

namespace DocPreview.Include

open Xml (Document)

section

variable {m : Type → Type} [Monad m]

def selectionWith (setting : Setting) (load : Location → m (Except Fault Document))
    (enclosing : List Location) (directory? : Option Path) (attributes : List (String × String)) :
    m (Except Fault (Location × List Node)) :=
  match setting.target enclosing directory? attributes with
  | .error fault => return .error fault
  | .ok (location, query) =>
    if nestingLimit ≤ enclosing.length then return .error (.tooDeep nestingLimit)
    else do
      let selected ← matching load location query
      return selected.map (location, ·)

theorem selectionWith_pure (setting : Setting) (documents : Location → Except Fault Document)
    (enclosing : List Location) (directory? : Option Path) (attributes : List (String × String)) :
    (selectionWith setting (fun location => pure (documents location)) enclosing directory?
      attributes : Id _) = selection setting documents enclosing directory? attributes := by
  unfold selectionWith selection
  cases setting.target enclosing directory? attributes with
  | error fault => rfl
  | ok found =>
      obtain ⟨location, query⟩ := found
      simp only [bind, Except.bind]
      split
      · rfl
      · cases (matching (fun location => pure (documents location)) location query : Id _) <;> rfl

theorem Simulation.selectionWith {n : Type → Type} [Monad n] (simulation : Simulation m n)
    {leftLoad : Location → m (Except Fault Document)}
    {rightLoad : Location → n (Except Fault Document)} (setting : Setting)
    (loaded : ∀ location, simulation.related (leftLoad location) (rightLoad location))
    (enclosing : List Location) (directory? : Option Path) (attributes : List (String × String)) :
    simulation.related
      (Include.selectionWith setting leftLoad enclosing directory? attributes)
      (Include.selectionWith setting rightLoad enclosing directory? attributes) := by
  unfold Include.selectionWith
  split
  · exact simulation.related_pure _
  · split
    · exact simulation.related_pure _
    · exact simulation.related_bind (simulation.matching loaded _ _)
        fun _ => simulation.related_pure _

variable [LawfulMonad m]

/-- What is left to replace an include once it has selected something or failed to. -/
theorem replacement_eq_bind (setting : Setting) (load : Location → m (Except Fault Document))
    (levels : Nat) (enclosing : List Location) (directory? : Option Path)
    (attributes : List (String × String)) (balanced : levels + enclosing.length = nestingLimit) :
    replacement setting load levels enclosing directory? attributes =
      selectionWith setting load enclosing directory? attributes >>= fun outcome =>
        match outcome with
        | .error fault => pure [fault.node]
        | .ok (location, selected) =>
          expandNodes (replacement setting load (levels - 1) (location :: enclosing)
            (some (directoryOf location))) selected := by
  unfold replacement selectionWith
  cases setting.target enclosing directory? attributes with
  | error fault => simp only [pure_bind]
  | ok found =>
      obtain ⟨location, query⟩ := found
      cases levels with
      | zero =>
          have full : nestingLimit ≤ enclosing.length := by omega
          simp only [full, ↓reduceIte, pure_bind]
      | succ levels =>
          have room : ¬ nestingLimit ≤ enclosing.length := by omega
          simp only [room, ↓reduceIte, bind_assoc, pure_bind, Nat.add_sub_cancel]
          congr 1
          funext outcome
          cases outcome <;> rfl

end

/-! ## Loading through a cache -/

/-- Computations on a cache that shows fixed outcomes, keep it so, and return what the computation
over these outcomes returns. -/
def Cache.showing (files : FileTree) (documents : Location → Except Fault Document) :
    Simulation (StateM Cache) Id :=
  Simulation.ofInvariant fun cache => cache.view files = documents

theorem Cache.showing_load (files : FileTree) (documents : Location → Except Fault Document)
    (location : Location) :
    (Cache.showing files documents).related (Cache.load files location)
      (pure (documents location)) := by
  intro cache shown
  exact ⟨by rw [Cache.load_fst, shown]; rfl, (Cache.load_snd_view _ _ _).trans shown⟩

theorem selectionWith_load {setting : Setting} {documents : Location → Except Fault Document}
    {cache : Cache} (shown : cache.view setting.files = documents) (enclosing : List Location)
    (directory? : Option Path) (attributes : List (String × String)) :
    (selectionWith setting (Cache.load setting.files) enclosing directory? attributes cache).1 =
        selection setting documents enclosing directory? attributes ∧
      (selectionWith setting (Cache.load setting.files) enclosing directory? attributes
        cache).2.view setting.files = documents := by
  have related := (Cache.showing setting.files documents).selectionWith setting
    (Cache.showing_load setting.files documents) enclosing directory? attributes cache shown
  rw [selectionWith_pure] at related
  exact related

theorem replacement_load {setting : Setting} {documents : Location → Except Fault Document}
    {cache : Cache} (shown : cache.view setting.files = documents) (levels : Nat)
    (enclosing : List Location) (directory? : Option Path) (attributes : List (String × String)) :
    (replacement setting (Cache.load setting.files) levels enclosing directory? attributes
        cache).1 =
      Id.run (replacement setting (fun location => pure (documents location)) levels enclosing
        directory? attributes) :=
  ((Cache.showing setting.files documents).replacement setting
    (Cache.showing_load setting.files documents) levels enclosing directory? attributes cache
    shown).1

/-! ## Moments -/

inductive Task where
  | expand (node : Node)
  /-- Put what was made since the element was opened into the element. -/
  | close (name : String) (attributes : List (String × String))
  /-- All that was selected in the innermost file is expanded. -/
  | leave

structure Moment where
  /-- The files being expanded, the innermost first. -/
  enclosing : List Location := []
  tasks : List Task := []
  /-- What is made so far of the innermost open element, and of those around it. -/
  made : List Node := []
  outer : List (List Node) := []
  cache : Cache := {}

/-- The directory that an include is seen from: that of the innermost file, or else that of the
source file. -/
def directoryInside (source? : Option Path) : List Location → Option Path
  | [] => source?.bind Path.parent?
  | location :: _ => some (directoryOf location)

namespace Moment

/-- What an include of these attributes would select at this moment. -/
def outcome (setting : Setting) (source? : Option Path) (moment : Moment)
    (attributes : List (String × String)) : Except Fault (Location × List Node) × Cache :=
  selectionWith setting (Cache.load setting.files) moment.enclosing
    (directoryInside source? moment.enclosing) attributes moment.cache

/-- The next moment; none when nothing is left to do. -/
def next? (setting : Setting) (source? : Option Path) (moment : Moment) : Option Moment :=
  match moment.tasks with
  | [] => none
  | .expand (.text content) :: tasks =>
    some { moment with tasks, made := moment.made ++ [.text content] }
  | .expand (.element name attributes children) :: tasks =>
    if name = tag then
      match moment.outcome setting source? attributes with
      | (.error fault, cache) =>
        some { moment with tasks, cache, made := moment.made ++ [fault.node] }
      | (.ok (location, selected), cache) =>
        some { moment with
          cache
          enclosing := location :: moment.enclosing
          tasks := selected.map .expand ++ .leave :: tasks }
    else
      some { moment with
        tasks := children.map .expand ++ .close name attributes :: tasks
        made := []
        outer := moment.made :: moment.outer }
  | .close name attributes :: tasks =>
    match moment.outer with
    | [] => none
    | before :: outer =>
      some { moment with tasks, outer, made := before ++ [.element name attributes moment.made] }
  | .leave :: tasks => some { moment with tasks, enclosing := moment.enclosing.tail }

def Leads (setting : Setting) (source? : Option Path) : Moment → Moment → Prop :=
  Relation.ReflTransGen fun before after => before.next? setting source? = some after

def start (setting : Setting) (root : Element) : Moment :=
  match setting.mode with
  | .none => { made := root.children }
  | _ => { tasks := root.children.map .expand }

section

variable {setting : Setting} {source? : Option Path}

theorem Leads.step {before after : Moment} (next : before.next? setting source? = some after) :
    Leads setting source? before after :=
  Relation.ReflTransGen.single next

/-- A moment has at most one next, so a run that ends is all there is. -/
theorem Leads.acc {before last : Moment} (leads : Leads setting source? before last)
    (ends : last.next? setting source? = none) :
    Acc (fun after before => before.next? setting source? = some after) before := by
  induction leads using Relation.ReflTransGen.head_induction_on with
  | refl =>
      refine Acc.intro _ fun after next => ?_
      rw [ends] at next
      cases next
  | head next _ ih =>
      refine Acc.intro _ fun after other => ?_
      rw [next] at other
      cases other
      exact ih

/-! ## What the steps make -/

/-- Inside the enclosing files and whatever else is left to do, expanding the nodes adds what the
computation returns, changes the cache as it does, and leaves the stack of files alone. -/
def Makes (setting : Setting) (source? : Option Path) (enclosing : List Location)
    (nodes : List Node) (made : StateM Cache (List Node)) : Prop :=
  ∀ tasks before outer cache,
    Leads setting source? ⟨enclosing, nodes.map .expand ++ tasks, before, outer, cache⟩
      ⟨enclosing, tasks, before ++ (made cache).1, outer, (made cache).2⟩

variable {enclosing : List Location}

theorem makes_nil : Makes setting source? enclosing [] (pure []) := by
  intro tasks before outer cache
  have unchanged : before ++ ((pure [] : StateM Cache (List Node)) cache).1 = before :=
    List.append_nil before
  rw [unchanged]
  exact Relation.ReflTransGen.refl

theorem Makes.cons {node : Node} {nodes : List Node} {first rest : StateM Cache (List Node)}
    (firstMade : Makes setting source? enclosing [node] first)
    (restMade : Makes setting source? enclosing nodes rest) :
    Makes setting source? enclosing (node :: nodes) (do
      let left ← first
      let right ← rest
      return left ++ right) := by
  intro tasks before outer cache
  have left := firstMade (nodes.map .expand ++ tasks) before outer cache
  have right := restMade tasks (before ++ (first cache).1) outer (first cache).2
  rw [List.append_assoc] at right
  exact left.trans right

theorem makes_text (content : String) :
    Makes setting source? enclosing [.text content] (pure [.text content]) := by
  intro tasks before outer cache
  exact Leads.step rfl

theorem Makes.element {name : String} {attributes : List (String × String)}
    {children : List Node} {inside : StateM Cache (List Node)} (ordinary : name ≠ tag)
    (childrenMade : Makes setting source? enclosing children inside) :
    Makes setting source? enclosing [.element name attributes children] (do
      let made ← inside
      return [.element name attributes made]) := by
  intro tasks before outer cache
  have opened : next? setting source?
      ⟨enclosing, .expand (.element name attributes children) :: tasks, before, outer, cache⟩ =
        some ⟨enclosing, children.map .expand ++ .close name attributes :: tasks, [],
          before :: outer, cache⟩ := by
    simp only [next?, ordinary, ↓reduceIte]
  have worked := childrenMade (.close name attributes :: tasks) [] (before :: outer) cache
  rw [List.nil_append] at worked
  exact ((Leads.step opened).trans worked).trans (Leads.step rfl)

theorem Makes.replaced {attributes : List (String × String)} {children : List Node}
    {inside : Location → List Node → StateM Cache (List Node)}
    (selectedMade : enclosing.length < nestingLimit → ∀ location selected,
      Makes setting source? (location :: enclosing) selected (inside location selected)) :
    Makes setting source? enclosing [.element tag attributes children]
      (selectionWith setting (Cache.load setting.files) enclosing
          (directoryInside source? enclosing) attributes >>= fun outcome =>
        match outcome with
        | .error fault => pure [fault.node]
        | .ok (location, selected) => inside location selected) := by
  intro tasks before outer cache
  cases found : selectionWith setting (Cache.load setting.files) enclosing
      (directoryInside source? enclosing) attributes cache with
  | mk outcome loaded =>
      simp only [bind, StateT.bind, found]
      cases outcome with
      | error fault =>
          refine Leads.step ?_
          simp only [List.map_cons, List.map_nil, List.cons_append, List.nil_append, next?,
            Moment.outcome, ↓reduceIte, found]
          rfl
      | ok selection =>
          obtain ⟨location, selected⟩ := selection
          have entered : next? setting source?
              ⟨enclosing, .expand (.element tag attributes children) :: tasks, before, outer,
                cache⟩ =
              some ⟨location :: enclosing, selected.map .expand ++ .leave :: tasks, before, outer,
                loaded⟩ := by
            simp only [next?, Moment.outcome, ↓reduceIte, found]
          have shown : cache.view setting.files = cache.view setting.files := rfl
          have selects := (selectionWith_load shown enclosing
            (directoryInside source? enclosing) attributes).1
          rw [found] at selects
          obtain ⟨_, _, room, _⟩ := selection_eq_ok selects.symm
          have worked := selectedMade room location selected (.leave :: tasks) before outer loaded
          exact ((Leads.step entered).trans worked).trans (Leads.step rfl)

mutual

theorem makes_expandNode {onInclude : List (String × String) → StateM Cache (List Node)}
    (replaced : ∀ attributes children,
      Makes setting source? enclosing [.element tag attributes children] (onInclude attributes)) :
    ∀ node, Makes setting source? enclosing [node] (expandNode onInclude node)
  | .text content => by
      simp only [expandNode]
      exact makes_text content
  | .element name attributes children => by
      simp only [expandNode]
      split
      · rename_i isInclude
        subst isInclude
        exact replaced attributes children
      · rename_i ordinary
        exact .element ordinary (makes_expandNodes replaced children)

theorem makes_expandNodes {onInclude : List (String × String) → StateM Cache (List Node)}
    (replaced : ∀ attributes children,
      Makes setting source? enclosing [.element tag attributes children] (onInclude attributes)) :
    ∀ nodes, Makes setting source? enclosing nodes (expandNodes onInclude nodes)
  | [] => by
      simp only [expandNodes]
      exact makes_nil
  | node :: nodes => by
      simp only [expandNodes]
      exact .cons (makes_expandNode replaced node) (makes_expandNodes replaced nodes)

end

/-- The steps make of an include what the recursion makes of it, by induction on how many more
files may enclose it. -/
theorem makes_replacement (setting : Setting) (source? : Option Path) (levels : Nat)
    (enclosing : List Location) (balanced : levels + enclosing.length = nestingLimit)
    (attributes : List (String × String)) (children : List Node) :
    Makes setting source? enclosing [.element tag attributes children]
      (replacement setting (Cache.load setting.files) levels enclosing
        (directoryInside source? enclosing) attributes) := by
  induction levels generalizing enclosing attributes children with
  | zero =>
      rw [replacement_eq_bind setting _ 0 enclosing _ attributes balanced]
      refine .replaced fun room => ?_
      omega
  | succ levels ih =>
      rw [replacement_eq_bind setting _ (levels + 1) enclosing _ attributes balanced]
      refine .replaced fun _ location selected => makes_expandNodes ?_ selected
      exact ih (location :: enclosing) (by simp only [List.length_cons]; omega)

/-- The run of a new resolver ends, with no file left on the stack, in what it resolves the
element to. -/
theorem start_leads (setting : Setting) (source? : Option Path) (root : Element) :
    Leads setting source? (start setting root)
      { made := (Cache.resolve setting source? root {}).1.children
        cache := (Cache.resolve setting source? root {}).2 } := by
  have made := makes_expandNodes (makes_replacement setting source? nestingLimit [] rfl)
    root.children [] [] [] {}
  rw [List.append_nil, List.nil_append] at made
  obtain ⟨files, mode⟩ := setting
  cases mode with
  | none => exact Relation.ReflTransGen.refl
  | relative => exact made
  | absolute => exact made

end

end Moment

end DocPreview.Include
