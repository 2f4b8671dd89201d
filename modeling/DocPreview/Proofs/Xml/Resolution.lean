import DocPreview.Proofs.Xml.Bindings
import DocPreview.Proofs.Xml.ReadBack

/-!
# Tags that resolve again

A tag that was resolved and written resolves again where the prefixes are bound as they were. The
bindings that are not written are those that the elements around it make, and the prefix `xml`,
which every document binds.
-/

set_option autoImplicit false

namespace DocPreview.Xml

/-! ## Written tags -/

theorem decoded_of_writes {given : List (QName × String)} {written : List WrittenAttribute}
    (writes : List.Forall₂ WrittenAttribute.Writes given written) :
    (∀ attr ∈ written, attr.Decodes) ∧ written.map (·.decoded) = given := by
  induction writes with
  | nil => simp
  | cons first rest ih =>
      obtain ⟨named, stands⟩ := first
      obtain ⟨decodes, content⟩ := WrittenAttribute.decodeValue_eq_ok.mp stands
      refine ⟨List.forall_mem_cons.mpr ⟨decodes, ih.1⟩, ?_⟩
      rw [List.map_cons, ih.2]
      exact congrArg (· :: _) (Prod.ext named content.symm)

theorem resolves_of_declares {around : Surroundings} {name : QName}
    {given : List (QName × String)} {default : Option String} (named : name.WellFormed)
    (allNamed : ∀ attr ∈ given, attr.1.WellFormed)
    (declares : Declares around name given default) :
    Resolves around name.text (given.map fun attr => (attr.1.text, attr.2))
      (.of around name given default) where
  named := named
  text_name := rfl
  resolves := by
    refine ⟨given, allNamed, rfl, ?_⟩
    rintro located written rfl writes
    obtain ⟨decodes, rfl⟩ := decoded_of_writes writes
    exact resolveTag_eq_ok.mpr ⟨decodes, default, declares, rfl⟩

/-! ## Writing a tag -/

/-- The bindings that are written with the tag, in the order of their attributes. -/
def StartTag.shownBindings (tag : StartTag) : Bindings :=
  (tag.ownBindings.filter fun binding =>
    binding.1 != "xml" && innermostUri? tag.outerBindings binding.1 != some binding.2).mergeSort
      fun left right => "xmlns:" ++ left.1 ≤ "xmlns:" ++ right.1

namespace StartTag

variable (tag : StartTag)

/-- The declaration of a default namespace that is written with the tag. -/
def givenDefault : List (QName × String) :=
  (tag.ownDefault.map fun uri => (⟨none, "xmlns"⟩, uri)).toList

/-- The declarations of prefixes that are written with the tag. -/
def givenBindings : List (QName × String) :=
  tag.shownBindings.map fun binding => (⟨some "xmlns", binding.1⟩, binding.2)

def givenAttributes : List (QName × String) :=
  tag.attributes.map fun attr => (attr.name, attr.value)

def given : List (QName × String) :=
  tag.givenDefault ++ tag.givenBindings ++ tag.givenAttributes

theorem bindingAttributes_eq :
    tag.bindingAttributes =
      tag.shownBindings.map fun binding => ("xmlns:" ++ binding.1, binding.2) :=
  Eq.symm <| List.map_mergeSort
    (s := fun left right : String × String => decide (left.1 ≤ right.1)) fun _ _ _ _ => rfl

theorem text_given :
    tag.given.map (fun attr => (attr.1.text, attr.2)) = tag.writtenAttributes := by
  rw [given, writtenAttributes, bindingAttributes_eq, List.map_append, List.map_append,
    givenBindings, givenAttributes, givenDefault, List.map_map, List.map_map]
  cases tag.ownDefault <;> rfl

variable {tag}

theorem mem_shownBindings {space uri : String} :
    (space, uri) ∈ tag.shownBindings ↔ (space, uri) ∈ tag.ownBindings ∧ space ≠ "xml" ∧
      innermostUri? tag.outerBindings space ≠ some uri := by
  simp [shownBindings]

theorem nodup_shownBindings (distinct : (tag.ownBindings.map Prod.fst).Nodup) :
    (tag.shownBindings.map Prod.fst).Nodup :=
  ((List.mergeSort_perm _ _).map Prod.fst).nodup_iff.mpr
    (distinct.sublist (List.filter_sublist.map _))

/-- The bindings that are written are in the order of their attributes. -/
theorem pairwise_shownBindings :
    tag.shownBindings.Pairwise fun left right => "xmlns:" ++ left.1 ≤ "xmlns:" ++ right.1 := by
  refine (List.pairwise_mergeSort ?_ ?_ _).imp of_decide_eq_true
  · simpa using fun _ _ _ => String.le_trans
  · simpa using fun _ _ => String.le_total _ _

theorem forall_mem_givenDefault {accepts : QName × String → Prop}
    (accepted : ∀ uri, accepts (⟨none, "xmlns"⟩, uri)) :
    ∀ attr ∈ tag.givenDefault, accepts attr := by
  rw [givenDefault]
  cases tag.ownDefault <;> simp [accepted]

namespace WellMade

variable {around : Surroundings} (made : tag.WellMade around)

include made

theorem given_wellFormed : ∀ attr ∈ tag.given, attr.1.WellFormed := by
  simp only [given, List.forall_mem_append]
  have xmlns : QName.WellFormed ⟨none, "xmlns"⟩ := ⟨by simp, by decide⟩
  refine ⟨⟨forall_mem_givenDefault fun _ => xmlns, ?_⟩, ?_⟩
  · refine List.forall_mem_map.mpr ?_
    rintro ⟨space, uri⟩ shown
    have fit := made.bindingsFit _ (mem_shownBindings.mp shown).1
    exact ⟨by rintro _ ⟨⟩; decide, fit.1⟩
  · exact List.forall_mem_map.mpr fun attr member => (made.attributesFit attr member).1

/-- Each of the parts that the tag is written with is of one kind. -/
theorem ofKind_given :
    (ofKind QName.isDefault tag.given).Perm tag.givenDefault ∧
      (ofKind QName.isBinding tag.given).Perm tag.givenBindings ∧
      (ofKind QName.isPlain tag.given).Perm tag.givenAttributes := by
  have default : ∀ attr ∈ tag.givenDefault,
      attr.1.isDefault = true ∧ attr.1.isBinding = false ∧ attr.1.isPlain = false :=
    forall_mem_givenDefault fun _ => ⟨rfl, rfl, rfl⟩
  have bindings : ∀ attr ∈ tag.givenBindings,
      attr.1.isDefault = false ∧ attr.1.isBinding = true ∧ attr.1.isPlain = false :=
    List.forall_mem_map.mpr fun _ _ => ⟨rfl, rfl, rfl⟩
  have plain : ∀ attr ∈ tag.givenAttributes,
      attr.1.isDefault = false ∧ attr.1.isBinding = false ∧ attr.1.isPlain = true := by
    refine List.forall_mem_map.mpr fun attr member => ?_
    have isPlain := (made.attributesFit attr member).2.1
    have declaresNothing : attr.name.isBinding = false ∧ attr.name.isDefault = false := by
      simpa [QName.isPlain] using isPlain
    exact ⟨declaresNothing.2, declaresNothing.1, isPlain⟩
  have kept {kind : QName → Bool} {part : List (QName × String)}
      (same : tag.given.filter (fun attr => kind attr.1) = part) :
      (ofKind kind tag.given).Perm part :=
    same ▸ (byName_perm Prod.fst tag.given).filter _
  refine ⟨kept ?_, kept ?_, kept ?_⟩ <;> simp only [given, List.filter_append]
  · rw [List.filter_eq_self.mpr fun attr member => (default attr member).1,
      List.filter_eq_nil_iff.mpr fun attr member => by simp [bindings attr member],
      List.filter_eq_nil_iff.mpr fun attr member => by simp [plain attr member]]
    simp
  · rw [List.filter_eq_nil_iff.mpr fun attr member => by simp [default attr member],
      List.filter_eq_self.mpr fun attr member => (bindings attr member).2.1,
      List.filter_eq_nil_iff.mpr fun attr member => by simp [plain attr member]]
    simp
  · rw [List.filter_eq_nil_iff.mpr fun attr member => by simp [default attr member],
      List.filter_eq_nil_iff.mpr fun attr member => by simp [bindings attr member],
      List.filter_eq_self.mpr fun attr member => (plain attr member).2.2]
    simp

theorem ofKind_isPlain_given : ofKind QName.isPlain tag.given = tag.givenAttributes := by
  have same := made.ofKind_given.2.2
  refine eq_of_perm_of_pairwise Prod.fst same ?_ ((byName_pairwise Prod.fst tag.given).filter _) ?_
  · rw [(same.map Prod.fst).nodup_iff, givenAttributes, List.map_map]
    exact made.attributes
  · exact List.pairwise_map.mpr made.sorted

theorem nodup_ofKind_isBinding_given :
    ((ofKind QName.isBinding tag.given).map Prod.fst).Nodup := by
  rw [(made.ofKind_given.2.1.map Prod.fst).nodup_iff, givenBindings, List.map_map]
  have names := (nodup_shownBindings made.bindings).map (QName.mk_injective (some "xmlns"))
  rwa [List.map_map] at names

theorem mem_bindingsIn_given {space uri : String} :
    (space, uri) ∈ bindingsIn tag.given ↔ (space, uri) ∈ tag.shownBindings := by
  have same := (made.ofKind_given.2.1.map fun attr => (attr.1.localPart, attr.2)).mem_iff
    (a := (space, uri))
  rw [givenBindings, List.map_map] at same
  exact same.trans (by simp)

end WellMade

/-- An attribute with the prefix `xml` has the local name of another one whose prefix is bound to
the same namespace. -/
def Clashes (tag : StartTag) : Prop :=
  ∃ reserved ∈ tag.attributes, ∃ other ∈ tag.attributes,
    reserved.name.space = some "xml" ∧ other.name.space ≠ some "xml" ∧
      reserved.name.localPart = other.name.localPart ∧ other.uri = some xmlUri

/-- The tag as it resolves when it has been written. -/
def again (tag : StartTag) (around : Surroundings) : StartTag :=
  .of around tag.name tag.given tag.ownDefault

end StartTag

/-! ## Resolving again -/

/-- The second surroundings bind the prefixes as the first ones do, except that `xml` keeps the
namespace that every document gives it. -/
structure Surroundings.Agree (around again : Surroundings) : Prop where
  isRoot : again.isRoot = around.isRoot
  uri : ∀ space, space ≠ "xml" →
    innermostUri? again.levels space = innermostUri? around.levels space
  reserved : again.isRoot = false → innermostUri? again.levels "xml" = some xmlUri

namespace StartTag.WellMade

variable {around again : Surroundings} {tag : StartTag} (made : tag.WellMade around)
  (agree : around.Agree again)

include made

/-- The prefix `xml` is not written, so it is bound as it was before. -/
theorem innermostUri?_reserved :
    innermostUri? (bindingsIn tag.given :: again.levels) "xml" =
      innermostUri? again.levels "xml" :=
  innermostUri?_of_absent (fun _ written =>
    (mem_shownBindings.mp (made.mem_bindingsIn_given.mp written)).2.1 rfl) _

theorem ownDefault_again : (tag.again again).ownDefault = tag.ownDefault := by
  refine (made_ownDefault ..).trans ?_
  cases declared : tag.ownDefault with
  | none => simp
  | some uri =>
      obtain ⟨unprefixed, nonempty⟩ := made.default uri declared
      rw [if_pos unprefixed, Option.filter_some, if_pos (by simpa using nonempty)]

include agree

/-- What is bound inside the tag does not depend on the bindings that are not written. -/
theorem innermostUri?_written {space : String} (other : space ≠ "xml") :
    innermostUri? (bindingsIn tag.given :: again.levels) space =
      innermostUri? tag.levels space := by
  have distinct := nodup_bindingsIn made.nodup_ofKind_isBinding_given
  have outside : innermostUri? again.levels space = innermostUri? tag.outerBindings space := by
    rw [agree.uri space other, made.outer]
  -- A binding of the tag's own that repeats the one around it is not written, but then the
  -- one around it is found in its place.
  by_cases own : ∃ uri, (space, uri) ∈ tag.ownBindings
  · obtain ⟨uri, member⟩ := own
    rw [levels, innermostUri?_of_mem made.bindings member]
    by_cases inherited : innermostUri? tag.outerBindings space = some uri
    · rw [innermostUri?_of_absent, outside, inherited]
      intro another written
      have shown := mem_shownBindings.mp (made.mem_bindingsIn_given.mp written)
      rw [← lookup_eq_some_iff_mem made.bindings] at member shown
      obtain rfl : uri = another := Option.some.inj (member.symm.trans shown.1)
      exact shown.2.2 inherited
    · exact innermostUri?_of_mem distinct
        (made.mem_bindingsIn_given.mpr (mem_shownBindings.mpr ⟨member, other, inherited⟩)) _
  · rw [levels, innermostUri?_of_absent fun uri member => own ⟨uri, member⟩,
      innermostUri?_of_absent, outside]
    intro uri written
    exact own ⟨uri, (mem_shownBindings.mp (made.mem_bindingsIn_given.mp written)).1⟩

theorem innermostUri?_levelsOf {space : String} (other : space ≠ "xml") :
    innermostUri? (again.levelsOf tag.given) space = innermostUri? tag.levels space := by
  rw [Surroundings.levelsOf, Surroundings.innermostUri?_bindingsOf
    (nodup_bindingsIn made.nodup_ofKind_isBinding_given) other,
    made.innermostUri?_written agree other]

theorem innermostUri?_levelsOf_reserved :
    innermostUri? (again.levelsOf tag.given) "xml" = some xmlUri := by
  rw [Surroundings.levelsOf, Surroundings.bindingsOf]
  split
  · rfl
  · next inner =>
      rw [made.innermostUri?_reserved, agree.reserved (by simpa using inner)]

theorem declares_again (named : around.isRoot → tag.name.space ≠ some "xml") :
    Declares again tag.name tag.given tag.ownDefault where
  plain := by
    rw [made.ofKind_isPlain_given, givenAttributes, List.map_map]
    exact made.attributes
  bindings := made.nodup_ofKind_isBinding_given
  default := by
    have same := made.ofKind_given.1.map Prod.snd
    rw [givenDefault] at same
    cases declared : tag.ownDefault <;> rw [declared] at same
    · exact List.perm_nil.mp same
    · exact List.perm_singleton.mp same
  nonempty attr member := by
    obtain ⟨⟨space, uri⟩, shown, rfl⟩ :=
      List.mem_map.mp (made.ofKind_given.2.1.mem_iff.mp member)
    exact (made.bindingsFit (space, uri) (mem_shownBindings.mp shown).1).2
  named space prefixed := by
    by_cases reserved : space = "xml"
    · subst reserved
      rw [made.innermostUri?_reserved, agree.reserved]
      · rfl
      · rw [agree.isRoot, Bool.eq_false_iff]
        exact fun isRoot => named isRoot prefixed
    · rw [made.innermostUri?_written agree reserved]
      exact made.nameBound space prefixed reserved
  bound := by
    rw [made.ofKind_isPlain_given]
    refine List.forall_mem_map.mpr fun attr member space prefixed => ?_
    by_cases reserved : space = "xml"
    · subst reserved
      rw [made.innermostUri?_levelsOf_reserved agree]
      rfl
    · rw [made.innermostUri?_levelsOf agree reserved]
      exact (made.attributesFit attr member).2.2.1 space prefixed

theorem uri?_levelsOf {attr : XmlAttribute} (member : attr ∈ tag.attributes) :
    attr.name.uri? (again.levelsOf tag.given) =
      if attr.name.space = some "xml" then some xmlUri else attr.uri := by
  rw [(made.attributesFit attr member).2.2.2, QName.uri?, QName.uri?]
  cases attr.name.space with
  | none => rfl
  | some space =>
      by_cases reserved : space = "xml"
      · subst reserved
        exact made.innermostUri?_levelsOf_reserved agree
      · rw [if_neg (by simpa using reserved)]
        exact made.innermostUri?_levelsOf agree reserved

/-- No attribute is lost by the prefix `xml` being bound as it is. -/
theorem attributes_again (clean : ¬ tag.Clashes) :
    (tag.again again).attributes = tag.givenAttributes.map (.of (again.levelsOf tag.given)) := by
  have distinct : tag.attributes.Pairwise fun first second => first.name ≠ second.name :=
    List.pairwise_map.mp made.attributes
  change ((ofKind QName.isPlain tag.given).map _).foldl addAttribute [] = _
  rw [made.ofKind_isPlain_given, foldl_addAttribute_nil]
  rw [givenAttributes, List.pairwise_map, List.pairwise_map]
  refine (made.apart.and distinct).imp_of_mem ?_
  rintro first second firstMember secondMember ⟨apart, differ⟩
  rw [XmlAttribute.Apart, or_iff_not_imp_left, not_not]
  intro sameLocal sameUri
  change first.name.uri? _ = second.name.uri? _ at sameUri
  rw [made.uri?_levelsOf agree firstMember, made.uri?_levelsOf agree secondMember] at sameUri
  change first.name.localPart = second.name.localPart at sameLocal
  -- Only the namespace of the prefix `xml` can have changed, so two attributes that meet now and
  -- did not before are one with that prefix and one without.
  by_cases firstReserved : first.name.space = some "xml" <;>
    by_cases secondReserved : second.name.space = some "xml"
  · have sameName : first.name = second.name := by
      rw [QName.mk.injEq]
      exact ⟨firstReserved.trans secondReserved.symm, sameLocal⟩
    exact differ sameName
  · rw [if_pos firstReserved, if_neg secondReserved] at sameUri
    exact clean ⟨first, firstMember, second, secondMember, firstReserved, secondReserved,
      sameLocal, sameUri.symm⟩
  · rw [if_neg firstReserved, if_pos secondReserved] at sameUri
    exact clean ⟨second, secondMember, first, firstMember, secondReserved, firstReserved,
      sameLocal.symm, sameUri⟩
  · rw [if_neg firstReserved, if_neg secondReserved] at sameUri
    exact apart.elim (· sameLocal) (· sameUri)

theorem shownBindings_again : (tag.again again).shownBindings = tag.shownBindings := by
  have distinct := nodup_bindingsIn made.nodup_ofKind_isBinding_given
  have againDistinct : ((tag.again again).shownBindings.map Prod.fst).Nodup :=
    nodup_shownBindings (Surroundings.nodup_bindingsOf distinct)
  have same : (tag.again again).shownBindings.Perm tag.shownBindings := by
    rw [List.perm_ext_iff_of_nodup againDistinct.of_map (nodup_shownBindings made.bindings).of_map]
    rintro ⟨space, uri⟩
    rw [mem_shownBindings]
    change (space, uri) ∈ again.bindingsOf (bindingsIn tag.given) ∧ space ≠ "xml" ∧
      innermostUri? again.levels space ≠ some uri ↔ _
    constructor
    · rintro ⟨binds, other, -⟩
      exact made.mem_bindingsIn_given.mp ((Surroundings.mem_bindingsOf other).mp binds)
    · intro shown
      have ⟨_, other, fresh⟩ := mem_shownBindings.mp shown
      refine ⟨(Surroundings.mem_bindingsOf other).mpr (made.mem_bindingsIn_given.mpr shown), other,
        ?_⟩
      rwa [agree.uri space other, ← made.outer]
  refine List.Perm.eq_of_pairwise ?_ pairwise_shownBindings pairwise_shownBindings same
  intro first second firstMember secondMember before after
  refine List.inj_on_of_nodup_map againDistinct firstMember (same.mem_iff.mpr secondMember) ?_
  exact String.append_right_inj _ |>.mp (String.le_antisymm before after)

/-- A tag that is written again is written as it was. -/
theorem writtenAttributes_again (clean : ¬ tag.Clashes) :
    (tag.again again).writtenAttributes = tag.writtenAttributes := by
  rw [writtenAttributes, writtenAttributes, made.ownDefault_again, bindingAttributes_eq,
    bindingAttributes_eq, made.shownBindings_again agree, made.attributes_again agree clean,
    givenAttributes, List.map_map, List.map_map]
  rfl

/-- A written tag resolves again. -/
theorem resolves_again (named : around.isRoot → tag.name.space ≠ some "xml") :
    Resolves again tag.name.text tag.writtenAttributes (tag.again again) := by
  have resolves := resolves_of_declares made.named made.given_wellFormed
    (made.declares_again agree named)
  rwa [text_given] at resolves

/-- What the tag declares for the tags inside it is what it declared before. -/
theorem agree_inside : (around.inside tag).Agree (again.inside (tag.again again)) where
  isRoot := rfl
  uri _ other := made.innermostUri?_levelsOf agree other
  reserved _ := made.innermostUri?_levelsOf_reserved agree

end StartTag.WellMade

end DocPreview.Xml
