import DocPreview.Proofs.Xml.Bindings
import DocPreview.Proofs.Xml.Steps

/-!
# The tags of a document

Every tag of a document was resolved where it stands, so it is well made. Each step of reading
keeps this of the elements that are open and of the nodes that are complete.
-/

set_option autoImplicit false

namespace DocPreview.Xml

mutual

/-- The tags of the node are well made where they stand. -/
def XmlNode.Made (around : Surroundings) : XmlNode → Prop
  | .element tag children => tag.WellMade around ∧ XmlNode.AllMade (around.inside tag) children
  | .text _ => True
  | .comment _ => True
  | .instruction _ _ => True

def XmlNode.AllMade (around : Surroundings) : List XmlNode → Prop
  | [] => True
  | node :: nodes => XmlNode.Made around node ∧ XmlNode.AllMade around nodes

end

theorem XmlNode.allMade_iff {around : Surroundings} {nodes : List XmlNode} :
    AllMade around nodes ↔ ∀ node ∈ nodes, node.Made around := by
  induction nodes with
  | nil => simp [AllMade]
  | cons node nodes ih => rw [AllMade, ih, List.forall_mem_cons]

namespace OpenElement

/-- What the open elements declare for a tag inside the first of them. -/
def around (elements : List OpenElement) : Surroundings :=
  Building.surroundings { openElements := elements }

def AllMade : List OpenElement → Prop
  | [] => True
  | element :: outer => element.tag.WellMade (around outer) ∧
    element.defaultUri = ((around outer).inside element.tag).defaultUri ∧
    (∀ child ∈ element.children, child.Made ((around outer).inside element.tag)) ∧
    AllMade outer

theorem around_cons {element : OpenElement} {outer : List OpenElement}
    (made : AllMade (element :: outer)) :
    around (element :: outer) = (around outer).inside element.tag := by
  have default := made.2.1
  change Surroundings.mk false element.tag.levels element.defaultUri = _
  rw [default]
  rfl

end OpenElement

namespace Building

structure WellMade (building : Building) : Prop where
  openElements : OpenElement.AllMade building.openElements
  nodes : ∀ node ∈ building.nodes, node.Made .outermost
  pending : ∀ tag ∈ building.pending,
    tag.1.value.WellFormed ∧ ∀ attr ∈ tag.2, attr.key.WellFormed

namespace WellMade

variable {building built : Building} (made : building.WellMade)

include made

/-- A node that is well made where the reading stands may be added there. -/
theorem add {node : XmlNode} (nodeMade : node.Made building.surroundings) :
    (building.add node).WellMade := by
  obtain ⟨elements, nodes, pending⟩ := building
  cases elements with
  | nil => exact ⟨trivial, List.forall_mem_cons.mpr ⟨nodeMade, made.nodes⟩, made.pending⟩
  | cons element outer =>
      obtain ⟨tagMade, default, children, outerMade⟩ := made.openElements
      have inside : node.Made ((OpenElement.around outer).inside element.tag) := by
        rw [← OpenElement.around_cons made.openElements]
        exact nodeMade
      exact ⟨⟨tagMade, default, List.forall_mem_cons.mpr ⟨inside, children⟩, outerMade⟩,
        made.nodes, made.pending⟩

theorem close : building.close.WellMade := by
  obtain ⟨elements, nodes, pending⟩ := building
  cases elements with
  | nil => exact made
  | cons element outer =>
      obtain ⟨tagMade, _, children, outerMade⟩ := made.openElements
      have outside : WellMade ⟨outer, nodes, pending⟩ := ⟨outerMade, made.nodes, made.pending⟩
      refine outside.add ⟨tagMade, XmlNode.allMade_iff.mpr ?_⟩
      exact fun child member => children child (List.mem_reverse.mp member)

theorem addPart (part : ValuePart) : (building.addPart part).WellMade := by
  unfold Building.addPart
  split
  · next name attr attributes pending =>
      refine ⟨made.openElements, made.nodes, ?_⟩
      rintro tag ⟨⟩
      obtain ⟨named, allNamed⟩ := made.pending (name, attr :: attributes) pending
      exact ⟨named, List.forall_mem_cons.mpr (List.forall_mem_cons.mp allNamed)⟩
  · exact made

theorem openPending (opens : building.openPending = .ok built) : built.WellMade := by
  unfold Building.openPending at opens
  split at opens
  · exact Except.ok.inj opens ▸ made
  · next name attributes pending =>
      obtain ⟨tag, resolved, opened⟩ := bind_eq_ok.mp opens
      obtain ⟨_, default, declares, rfl⟩ := resolveTag_eq_ok.mp resolved
      obtain rfl := Except.ok.inj opened
      obtain ⟨named, allNamed⟩ := made.pending (name, attributes) pending
      have tagMade := wellMade_of_declares named (List.forall_mem_map.mpr fun attr member =>
        allNamed attr (List.mem_reverse.mp member)) declares
      exact ⟨⟨tagMade, rfl, List.forall_mem_nil _, made.openElements⟩, made.nodes, by simp⟩

/-- Every step of reading keeps what has been built well made. -/
theorem step {event : Event} (named : event.WellNamed) (builds : building.step event = .ok built) :
    built.WellMade := by
  cases event with
  | prolog => exact Except.ok.inj builds ▸ made
  | comment text => exact Except.ok.inj builds ▸ made.add trivial
  | instruction target value => exact Except.ok.inj builds ▸ made.add trivial
  | openTag name =>
      obtain rfl := Except.ok.inj builds
      refine ⟨made.openElements, made.nodes, ?_⟩
      rintro tag ⟨⟩
      exact ⟨named, List.forall_mem_nil _⟩
  | openAttribute name =>
      obtain rfl := Except.ok.inj builds
      refine ⟨made.openElements, made.nodes, fun tag pending => ?_⟩
      obtain ⟨⟨tagName, attributes⟩, before, rfl⟩ := Option.map_eq_some_iff.mp pending
      obtain ⟨tagNamed, allNamed⟩ := made.pending _ before
      exact ⟨tagNamed, List.forall_mem_cons.mpr ⟨named, allNamed⟩⟩
  | attributeText text => exact Except.ok.inj builds ▸ made.addPart _
  | attributeReference reference => exact Except.ok.inj builds ▸ made.addPart _
  | closeAttribute => exact Except.ok.inj builds ▸ made
  | endTag => exact made.openPending builds
  | endEmptyTag =>
      obtain ⟨opened, opens, closed⟩ := bind_eq_ok.mp builds
      exact Except.ok.inj closed ▸ (made.openPending opens).close
  | closeTag name =>
      simp only [Building.step] at builds
      split at builds
      · exact Except.ok.inj builds ▸ made
      · split at builds
        · exact Except.ok.inj builds ▸ made.close
        · cases builds
  | text text => exact Except.ok.inj builds ▸ made.add trivial
  | reference reference =>
      obtain ⟨text, _, added⟩ := bind_eq_ok.mp builds
      exact Except.ok.inj added ▸ made.add trivial

end WellMade

end Building

theorem Reading.Steps.wellMade {reading later : Reading} (steps : Steps reading later)
    (made : reading.building.WellMade) : later.building.WellMade := by
  induction steps with
  | refl => exact made
  | tail _ step ih =>
      obtain ⟨scanned, _, builds⟩ := step
      exact ih.step (Scanner.yields_nextEvent _ scanned) builds

/-- Every tag of a document is well made where it stands. -/
theorem Document.made_of_read {chars : List Char} {document : Document}
    (read : Document.read chars = .ok document) : XmlNode.AllMade .outermost document.nodes := by
  obtain ⟨final, steps, finishes⟩ := Reading.exists_steps_of_read read
  have made := steps.wellMade ⟨trivial, List.forall_mem_nil _, by rintro _ ⟨⟩⟩
  unfold Building.finish at finishes
  split at finishes
  · obtain rfl := Except.ok.inj finishes
    exact XmlNode.allMade_iff.mpr fun node member => made.nodes node (List.mem_reverse.mp member)
  · cases finishes

end DocPreview.Xml
