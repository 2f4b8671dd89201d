import DocPreview.Include.Expand

/-!
# Expansions that simulate each other

The expansion of includes leaves open how a document is loaded. Two ways of loading that agree
on every document, in a sense that returning and sequencing respect, expand every tree alike.
-/

set_option autoImplicit false

namespace DocPreview.Include

open Xml (Document)

/-- A relation between computations of two kinds that returning and sequencing respect. Related
computations return the same value; what else they do may differ. -/
structure Simulation (m n : Type → Type) [Monad m] [Monad n] where
  related : {α : Type} → m α → n α → Prop
  related_pure : ∀ {α : Type} (value : α), related (pure value : m α) (pure value : n α)
  related_bind : ∀ {α β : Type} {left : m α} {right : n α} {leftNext : α → m β}
    {rightNext : α → n β}, related left right →
    (∀ value, related (leftNext value) (rightNext value)) →
    related (left >>= leftNext) (right >>= rightNext)

namespace Simulation

variable {m n : Type → Type} [Monad m] [Monad n] (simulation : Simulation m n)

mutual

theorem expandNode {left : List (String × String) → m (List Node)}
    {right : List (String × String) → n (List Node)}
    (replaced : ∀ attributes, simulation.related (left attributes) (right attributes)) :
    ∀ node, simulation.related (Include.expandNode left node) (Include.expandNode right node)
  | .text content => by
      simp only [Include.expandNode]
      exact simulation.related_pure _
  | .element name attributes children => by
      simp only [Include.expandNode]
      split
      · exact replaced attributes
      · exact simulation.related_bind (expandNodes replaced children)
          fun _ => simulation.related_pure _

theorem expandNodes {left : List (String × String) → m (List Node)}
    {right : List (String × String) → n (List Node)}
    (replaced : ∀ attributes, simulation.related (left attributes) (right attributes)) :
    ∀ nodes,
      simulation.related (Include.expandNodes left nodes) (Include.expandNodes right nodes)
  | [] => by
      simp only [Include.expandNodes]
      exact simulation.related_pure _
  | node :: nodes => by
      simp only [Include.expandNodes]
      exact simulation.related_bind (expandNode replaced node) fun _ =>
        simulation.related_bind (expandNodes replaced nodes) fun _ => simulation.related_pure _

end

variable {leftLoad : Location → m (Except Fault Document)}
  {rightLoad : Location → n (Except Fault Document)}

theorem matching (loaded : ∀ location, simulation.related (leftLoad location) (rightLoad location))
    (location : Location) (query : String) :
    simulation.related (Include.matching leftLoad location query)
      (Include.matching rightLoad location query) := by
  refine simulation.related_bind (loaded location) fun outcome => ?_
  cases outcome with
  | error fault => exact simulation.related_pure _
  | ok document =>
      simp only
      split <;> exact simulation.related_pure _

/-- An include is replaced alike wherever it stands, by induction on how many more files may
enclose it. -/
theorem replacement (setting : Setting)
    (loaded : ∀ location, simulation.related (leftLoad location) (rightLoad location))
    (levels : Nat) (enclosing : List Location) (directory? : Option Path)
    (attributes : List (String × String)) :
    simulation.related
      (Include.replacement setting leftLoad levels enclosing directory? attributes)
      (Include.replacement setting rightLoad levels enclosing directory? attributes) := by
  induction levels generalizing enclosing directory? attributes with
  | zero =>
      unfold Include.replacement
      split <;> exact simulation.related_pure _
  | succ levels ih =>
      unfold Include.replacement
      split
      · exact simulation.related_pure _
      · refine simulation.related_bind (simulation.matching loaded _ _) fun outcome => ?_
        cases outcome with
        | error fault => exact simulation.related_pure _
        | ok nodes => exact simulation.expandNodes (ih _ _) nodes

theorem resolveWith (setting : Setting)
    (loaded : ∀ location, simulation.related (leftLoad location) (rightLoad location))
    (source? : Option Path) (root : Element) :
    simulation.related (Include.resolveWith setting leftLoad source? root)
      (Include.resolveWith setting rightLoad source? root) := by
  unfold Include.resolveWith
  split
  · exact simulation.related_pure _
  · exact simulation.related_bind
      (simulation.expandNodes (simulation.replacement setting loaded _ _ _) root.children)
      fun _ => simulation.related_pure _

end Simulation

end DocPreview.Include
