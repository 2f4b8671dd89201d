import DocPreview.Proofs.Comment.RepeatedLinks
import DocPreview.Proofs.Page.Surfacing

/-!
# What is shown for a repeated reference

References repeat each other when tag and target agree, whichever attribute names the target. What
a reference without a label shows depends on that attribute as well. So the first reference of its
kind stands for a repetition exactly if both name the target in the same form.
-/

set_option autoImplicit false

namespace DocPreview

def LinkForm.markup (dialect : Dialect) (target : String) : LinkForm → Html
  | .code => CodeReference.link target none
  | .address => .tagged "a" [("href", target)] [.text target]
  | .word => .classed "code" "keyword" [.text (dialect.languageWord target)]

/-- The attributes of the markup tell the forms apart, whatever the targets are. -/
theorem LinkForm.eq_of_markup_eq {dialect : Dialect} {target other : String} {form found : LinkForm}
    (same : form.markup dialect target = found.markup dialect other) : form = found := by
  cases form <;> cases found <;>
    simp_all [markup, CodeReference.link, Html.tagged, Html.classed]

namespace Node

def Unlabelled : Node → Prop
  | .text _ => True
  | .element name attributes children =>
    name ∈ ["see", "seealso"] → Element.isBlank ⟨name, attributes, children⟩ = true

instance : DecidablePred Unlabelled
  | .text _ => inferInstanceAs (Decidable True)
  | .element name attributes children => inferInstanceAs (Decidable
      (name ∈ ["see", "seealso"] → Element.isBlank ⟨name, attributes, children⟩ = true))

/-- References of one tag and target name it in one form. -/
def FormsAgree (nodes : List Node) : Prop :=
  ∀ first ∈ nodes, ∀ second ∈ nodes, ∀ (tag target : String) (form other : LinkForm),
    first.RefersBy form tag target → second.RefersBy other tag target → form = other

theorem RefersBy.linkTarget?_eq {form : LinkForm} {tag target : String} {node : Node}
    (refers : node.RefersBy form tag target) : node.linkTarget? = some (tag, target) :=
  linkTarget?_eq_some_iff.mpr ⟨form, refers⟩

/-- A code reference overrules the other forms. -/
theorem RefersBy.eq_code {form : LinkForm} {tag target name reference : String}
    {attributes : List (String × String)} {children : List Node}
    (refers : (Node.element name attributes children).RefersBy form tag target)
    (found : attributes.lookup "cref" = some reference) : form = .code := by
  cases form with
  | code => rfl
  | address => exact absurd (found.symm.trans (refers.2.2.1 "cref" (by decide))) nofun
  | word => exact absurd (found.symm.trans (refers.2.2.1 "cref" (by decide))) nofun

end Node

/-! ## Every key is kept once -/

section

variable {α κ : Type} [BEq κ]

theorem keepFirst_isPrefix (key? : α → Option κ) (seen : List κ) (items later : List α) :
    keepFirst key? seen items <+: keepFirst key? seen (items ++ later) := by
  induction items generalizing seen with
  | nil => exact List.nil_prefix
  | cons item items ih =>
      simp only [List.cons_append, keepFirst]
      split
      · exact List.cons_prefix_cons.mpr ⟨rfl, ih seen⟩
      · split
        · exact ih seen
        · exact List.cons_prefix_cons.mpr ⟨rfl, ih _⟩

variable [LawfulBEq κ] {key? : α → Option κ} {items : List α} {item : α} {key : κ}

theorem exists_kept_of_key (member : item ∈ items) (keyed : key? item = some key) :
    ∃ first ∈ keepFirst key? [] items, key? first = some key := by
  have kept : key ∈ (keepFirst key? [] items).filterMap key? := by
    rw [filterMap_keepFirst, List.mem_eraseDups, List.mem_filter]
    exact ⟨List.mem_filterMap.mpr ⟨item, member, keyed⟩, rfl⟩
  exact List.mem_filterMap.mp kept

/-- What the items of one key have in common is there among the kept items. -/
theorem exists_kept_iff {β : Type} {value : α → β}
    (coherent : ∀ first ∈ items, ∀ second ∈ items, ∀ key, key? first = some key →
      key? second = some key → value first = value second) (shown : β) :
    (∃ item ∈ keepFirst key? [] items, value item = shown) ↔ ∃ item ∈ items, value item = shown := by
  have within : ∀ item ∈ keepFirst key? [] items, item ∈ items := fun item =>
    (keepFirst_sublist key? [] items).subset (a := item)
  constructor
  · rintro ⟨item, member, same⟩
    exact ⟨item, within item member, same⟩
  · rintro ⟨item, member, same⟩
    cases keyed : key? item with
    | none =>
        have stays : item ∈ (keepFirst key? [] items).filter fun item => (key? item).isNone := by
          rw [filter_keyless_keepFirst, List.mem_filter]
          exact ⟨member, by rw [keyed]; rfl⟩
        exact ⟨item, (List.mem_filter.mp stays).1, same⟩
    | some key =>
        obtain ⟨first, kept, keyedFirst⟩ := exists_kept_of_key member keyed
        exact ⟨first, kept,
          (coherent first (within first kept) item member key keyedFirst keyed).trans same⟩

end

/-! ## References without a label -/

theorem Content.value_labelOf?_of_isBlank {tag : Tag} (blank : tag.isBlank = true) :
    (labelOf? tag).value = none := by
  simp only [labelOf?, blank, ↓reduceIte, Rendered.value_pure]

/-- The handler asks for the attributes in the order in which they overrule each other. -/
theorem Content.value_reference {form : LinkForm} {tag : Tag} {target : String}
    (blank : tag.isBlank = true)
    (others : ∀ other ∈ form.overruling, tag.attribute? other = none)
    (named : tag.attribute? form.attributeName = some target) (setting : Setting) :
    (reference setting tag).value = [form.markup setting.dialect target] := by
  have unlabelled := value_labelOf?_of_isBlank blank
  cases form with
  | code =>
      simp only [LinkForm.attributeName] at named
      simp only [reference, named, Rendered.value_bind, Rendered.value_pure, unlabelled,
        LinkForm.markup]
  | address =>
      simp only [LinkForm.attributeName] at named
      have noCode := others "cref" (by decide)
      simp only [reference, noCode, named, Rendered.value_bind, Rendered.value_pure, unlabelled,
        LinkForm.markup, Option.getD_none]
  | word =>
      simp only [LinkForm.attributeName] at named
      have noCode := others "cref" (by decide)
      have noAddress := others "href" (by decide)
      simp only [reference, noCode, noAddress, named, Rendered.value_pure, LinkForm.markup]

variable {styleName tag target : String} {style : Style} {setting : Setting} {node : Node}
  {nodes : List Node} {form : LinkForm}

theorem Style.lookup_reference (named : ofName? styleName = some style) {name : String}
    (link : name ∈ ["see", "seealso"]) :
    style.registry.lookup name = some Content.reference := by
  rw [List.mem_cons, List.mem_singleton] at link
  obtain rfl | rfl := link
  · exact lookup_shared named rfl
  · exact lookup_shared named rfl

theorem interpretation_of_refersBy (named : Style.ofName? styleName = some style)
    (usual : setting.options.recognizedTags = ({} : OptionSet).recognizedTags)
    (unlabelled : node.Unlabelled) (refers : node.RefersBy form tag target) :
    style.interpretation setting node = [form.markup setting.dialect target] := by
  have usualLinks : ∀ name ∈ ["see", "seealso"],
      ({} : OptionSet).recognizedTags.contains name = true ∧ (name == errorTag) = false := by
    decide
  cases node with
  | text content => cases refers
  | element name attributes children =>
      obtain ⟨link, -, others, found⟩ := refers
      obtain ⟨recognized, ordinary⟩ := usualLinks name link
      have known : setting.options.isRecognized name = true := by
        rw [OptionSet.isRecognized, usual, recognized]
      -- Repetitions are dropped inside the reference too, so any part of its children must be blank.
      have blank : ∀ shown : List Node, shown.Sublist children →
          Tag.isBlank ⟨name, attributes, style.readAll setting shown⟩ = true := by
        intro shown part
        rw [Tag.isBlank, Tag.element, nodes_readAll, Element.isBlank, List.all_eq_true]
        intro child member
        exact List.all_eq_true.mp (unlabelled link) child (part.subset member)
      rw [interpretation_element]
      simp only [Style.markup, Style.name_tagOf, ordinary, Bool.false_eq_true, ↓reduceIte, known,
        Style.lookup_reference named link, Style.dispatch_tagOf, Element.keptChildren]
      split
      · exact Content.value_reference (blank _ (keepFirst_sublist _ _ _)) others found setting
      · exact Content.value_reference (blank _ (.refl _)) others found setting

/-- In front of every reference that is dropped stands a kept one of its tag and target. -/
theorem Element.exists_kept_before {element : Element} {before after : List Node} {child : Node}
    (split : element.children = before ++ child :: after) (refers : child.RefersBy form tag target)
    (repeated : repeatsKey Node.linkTarget? before child = true) :
    ∃ first ∈ before, first ∈ element.suppressDuplicateLinks.children ∧
      ∃ other, first.RefersBy other tag target := by
  have earlier : ∃ sibling ∈ before, Node.linkTarget? sibling = some (tag, target) := by
    simpa [repeatsKey, refers.linkTarget?_eq] using repeated
  obtain ⟨sibling, member, keyed⟩ := earlier
  obtain ⟨first, kept, keyedFirst⟩ := exists_kept_of_key member keyed
  refine ⟨first, (keepFirst_sublist _ _ _).subset kept, ?_,
    Node.linkTarget?_eq_some_iff.mp keyedFirst⟩
  rw [suppressDuplicateLinks, split]
  exact (keepFirst_isPrefix _ _ _ _).subset kept

/-- Every reference that is dropped has an earlier kept sibling with its tag and its target. The two
show the same exactly if they name the target in the same form. So nothing that is shown is lost
where references of one tag and target agree in their form. -/
theorem kept_reference_shows_dropped_iff_same_form
    (named : Style.ofName? styleName = some style)
    (usual : setting.options.recognizedTags = ({} : OptionSet).recognizedTags) (element : Element)
    (unlabelled : ∀ child ∈ element.children, child.Unlabelled) :
    (∀ (before : List Node) (child : Node) (after : List Node) (form : LinkForm)
        (tag target : String), element.children = before ++ child :: after →
      child.RefersBy form tag target → repeatsKey Node.linkTarget? before child = true →
      ∃ first ∈ before, first ∈ element.suppressDuplicateLinks.children ∧
        ∃ other, first.RefersBy other tag target ∧
          (style.interpretation setting first = style.interpretation setting child ↔
            other = form)) ∧
    (Node.FormsAgree element.children → ∀ fragment : List Html,
      (∃ child ∈ element.suppressDuplicateLinks.children,
          style.interpretation setting child = fragment) ↔
        ∃ child ∈ element.children, style.interpretation setting child = fragment) := by
  have shows : ∀ child ∈ element.children, ∀ (form : LinkForm) (tag target : String),
      child.RefersBy form tag target →
      style.interpretation setting child = [form.markup setting.dialect target] :=
    fun child member form tag target refers =>
      interpretation_of_refersBy named usual (unlabelled child member) refers
  constructor
  · intro before child after form tag target split refers repeated
    obtain ⟨first, there, kept, other, refersFirst⟩ :=
      Element.exists_kept_before split refers repeated
    refine ⟨first, there, kept, other, refersFirst, ?_⟩
    have fromFirst := shows first (by rw [split]; exact List.mem_append_left _ there) _ _ _
      refersFirst
    have fromChild := shows child (by rw [split]; exact List.mem_append_cons_self) _ _ _ refers
    rw [fromFirst, fromChild]
    constructor
    · intro same
      exact LinkForm.eq_of_markup_eq (List.singleton_inj.mp same)
    · rintro rfl
      rfl
  · intro agree fragment
    refine exists_kept_iff ?_ fragment
    rintro first memberFirst second memberSecond ⟨tag, target⟩ keyedFirst keyedSecond
    obtain ⟨form, refersFirst⟩ := Node.linkTarget?_eq_some_iff.mp keyedFirst
    obtain ⟨other, refersSecond⟩ := Node.linkTarget?_eq_some_iff.mp keyedSecond
    obtain rfl := agree first memberFirst second memberSecond tag target form other refersFirst
      refersSecond
    rw [shows first memberFirst _ _ _ refersFirst, shows second memberSecond _ _ _ refersSecond]

/-- The second reference has an address as well, which its code reference overrules. -/
theorem kept_reference_shows_dropped_iff_same_form_paragraph :
    let run : Declaration := { name := "Run", kind := .method [] }
    let setting : Setting := ⟨{}, run, .csharp, .render run .csharp⟩
    let code : Node := .element "see" [("cref", "T:A")] []
    let both : Node := .element "see" [("href", "T:B"), ("cref", "T:A")] [.text " "]
    let paragraph : Element := ⟨"para", [], [code, .text ", ", both]⟩
    Style.ofName? "reference" = some Reference.style ∧
    (∀ child ∈ paragraph.children, child.Unlabelled) ∧
    Node.FormsAgree paragraph.children ∧
    both.RefersBy .code "see" "T:A" ∧
    repeatsKey Node.linkTarget? [code, .text ", "] both = true ∧
    ∀ fragment : List Html,
      (∃ child ∈ paragraph.suppressDuplicateLinks.children,
          Reference.style.interpretation setting child = fragment) ↔
        ∃ child ∈ paragraph.children, Reference.style.interpretation setting child = fragment := by
  intro run setting code both paragraph
  have named : Style.ofName? "reference" = some Reference.style := rfl
  have unlabelled : ∀ child ∈ paragraph.children, child.Unlabelled := by decide
  have coded : ∀ child ∈ paragraph.children, ∀ form tag target, child.RefersBy form tag target →
      form = .code := by
    simp only [paragraph, List.forall_mem_cons]
    exact ⟨fun _ _ _ refers => refers.eq_code rfl, fun _ _ _ refers => refers.elim,
      fun _ _ _ refers => refers.eq_code rfl, fun _ none => absurd none List.not_mem_nil⟩
  have agree : Node.FormsAgree paragraph.children := by
    intro first memberFirst second memberSecond tag target form other refersFirst refersSecond
    rw [coded first memberFirst _ _ _ refersFirst, coded second memberSecond _ _ _ refersSecond]
  exact ⟨rfl, unlabelled, agree, by decide, by decide,
    (kept_reference_shows_dropped_iff_same_form named rfl paragraph unlabelled).2 agree⟩

/-- The second link leads to another place than the first, and nothing that is kept shows it. -/
theorem address_lost_behind_equal_code_reference :
    let setting : Setting := ⟨{}, {}, .csharp, {}⟩
    let code : Node := .element "see" [("cref", "T:X")] []
    let address : Node := .element "see" [("href", "T:X")] []
    let paragraph : Element := ⟨"para", [], [code, address]⟩
    (∀ child ∈ paragraph.children, child.Unlabelled) ∧
    paragraph.suppressDuplicateLinks.children = [code] ∧
    Classic.style.interpretation setting address ≠ Classic.style.interpretation setting code := by
  intro setting code address paragraph
  have named : Style.ofName? "classic" = some Classic.style := rfl
  have unlabelled : ∀ child ∈ paragraph.children, child.Unlabelled := by decide
  have byCode : code.RefersBy .code "see" "T:X" := by decide
  have byAddress : address.RefersBy .address "see" "T:X" := by decide
  have fromCode : Classic.style.interpretation setting code =
      [LinkForm.code.markup .csharp "T:X"] :=
    interpretation_of_refersBy named rfl (by decide) byCode
  have fromAddress : Classic.style.interpretation setting address =
      [LinkForm.address.markup .csharp "T:X"] :=
    interpretation_of_refersBy named rfl (by decide) byAddress
  refine ⟨unlabelled, rfl, ?_⟩
  rw [fromCode, fromAddress]
  intro same
  cases LinkForm.eq_of_markup_eq (List.singleton_inj.mp same)

end DocPreview
