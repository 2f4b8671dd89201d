import DocPreview.Proofs.Xml.Scanning
import DocPreview.Proofs.Xml.Tags

/-!
# What tags bind

A prefix is looked up in the elements around a tag, innermost first. Each of them binds a prefix
once, so a binding is found exactly when it is there and nothing nearer is. What a resolved tag
binds, and how its attributes are named, is gathered in one predicate.
-/

set_option autoImplicit false

namespace DocPreview.Xml

/-! ## Bindings -/

theorem innermostUri?_cons (bindings : Bindings) (levels : List Bindings) (space : String) :
    innermostUri? (bindings :: levels) space =
      (bindings.lookup space).or (innermostUri? levels space) := by
  rw [innermostUri?, List.findSome?_cons]
  cases bindings.lookup space <;> rfl

theorem lookup_eq_some_iff_mem {bindings : Bindings} (distinct : (bindings.map Prod.fst).Nodup)
    {space uri : String} : bindings.lookup space = some uri ↔ (space, uri) ∈ bindings := by
  induction bindings with
  | nil => simp
  | cons binding bindings ih =>
      obtain ⟨fresh, rest⟩ := List.nodup_cons.mp distinct
      rw [List.lookup_cons, List.mem_cons, ← ih rest]
      by_cases same : space = binding.1
      · have absent : bindings.lookup space ≠ some uri := fun found =>
          fresh (same ▸ List.mem_map_of_mem ((ih rest).mp found))
        rw [same] at absent
        simp [same, absent, Prod.ext_iff, eq_comm]
      · have other : (space == binding.1) = false := beq_eq_false_iff_ne.mpr same
        simp [same, other, Prod.ext_iff]

theorem innermostUri?_of_mem {bindings : Bindings} (distinct : (bindings.map Prod.fst).Nodup)
    {space uri : String} (member : (space, uri) ∈ bindings) (levels : List Bindings) :
    innermostUri? (bindings :: levels) space = some uri := by
  rw [innermostUri?_cons, (lookup_eq_some_iff_mem distinct).mpr member]
  rfl

theorem innermostUri?_of_absent {bindings : Bindings} {space : String}
    (absent : ∀ uri, (space, uri) ∉ bindings) (levels : List Bindings) :
    innermostUri? (bindings :: levels) space = innermostUri? levels space := by
  have missing : bindings.lookup space = none := by
    refine List.lookup_eq_none_iff.mpr ?_
    rintro ⟨other, uri⟩ member
    rw [bne_iff_ne]
    rintro rfl
    exact absent uri member
  rw [innermostUri?_cons, missing, Option.none_or]

/-! ## What attributes declare -/

theorem mem_ofKind {kind : QName → Bool} {given : List (QName × String)} {attr : QName × String} :
    attr ∈ ofKind kind given ↔ attr ∈ given ∧ kind attr.1 := by
  rw [ofKind, List.mem_filter, (byName_perm _ _).mem_iff]

theorem mem_bindingsIn {given : List (QName × String)} {space uri : String} :
    (space, uri) ∈ bindingsIn given ↔ (⟨some "xmlns", space⟩, uri) ∈ given := by
  simp only [bindingsIn, List.mem_map, mem_ofKind]
  constructor
  · rintro ⟨⟨⟨binds, localPart⟩, value⟩, ⟨member, isBinding⟩, same⟩
    cases same
    obtain rfl : binds = some "xmlns" := by simpa [QName.isBinding] using isBinding
    exact member
  · exact fun member => ⟨_, ⟨member, by simp [QName.isBinding]⟩, rfl⟩

theorem nodup_bindingsIn {given : List (QName × String)}
    (distinct : ((ofKind QName.isBinding given).map Prod.fst).Nodup) :
    ((bindingsIn given).map Prod.fst).Nodup := by
  rw [bindingsIn, List.map_map]
  rw [List.nodup_iff_pairwise_ne, List.pairwise_map] at distinct ⊢
  refine distinct.imp_of_mem ?_
  rintro ⟨⟨first, _⟩, _⟩ ⟨⟨second, _⟩, _⟩ firstMember secondMember differ same
  obtain rfl : first = some "xmlns" := by
    simpa [QName.isBinding] using (mem_ofKind.mp firstMember).2
  obtain rfl : second = some "xmlns" := by
    simpa [QName.isBinding] using (mem_ofKind.mp secondMember).2
  exact differ (congrArg (QName.mk (some "xmlns")) same)

/-! ## The prefix `xml` -/

namespace Surroundings

variable {around : Surroundings} {declared : Bindings}

theorem nodup_bindingsOf (distinct : (declared.map Prod.fst).Nodup) :
    ((around.bindingsOf declared).map Prod.fst).Nodup := by
  unfold bindingsOf
  split
  · refine List.nodup_cons.mpr ⟨?_, distinct.sublist (List.filter_sublist.map _)⟩
    simp
  · exact distinct

theorem mem_bindingsOf {space uri : String} (other : space ≠ "xml") :
    (space, uri) ∈ around.bindingsOf declared ↔ (space, uri) ∈ declared := by
  unfold bindingsOf
  split <;> simp [other]

/-- An element binds what it declares, and perhaps `xml`. -/
theorem mem_or_eq_of_mem_bindingsOf {binding : String × String}
    (member : binding ∈ around.bindingsOf declared) :
    binding ∈ declared ∨ binding = ("xml", xmlUri) := by
  unfold bindingsOf at member
  split at member
  · obtain same | kept := List.mem_cons.mp member
    · exact .inr same
    · exact .inl (List.mem_filter.mp kept).1
  · exact .inl member

theorem innermostUri?_bindingsOf (distinct : (declared.map Prod.fst).Nodup) {space : String}
    (other : space ≠ "xml") (levels : List Bindings) :
    innermostUri? (around.bindingsOf declared :: levels) space =
      innermostUri? (declared :: levels) space := by
  have same : (around.bindingsOf declared).lookup space = declared.lookup space := by
    refine Option.ext fun uri => ?_
    rw [lookup_eq_some_iff_mem (nodup_bindingsOf distinct), lookup_eq_some_iff_mem distinct,
      mem_bindingsOf other]
  rw [innermostUri?_cons, innermostUri?_cons, same]

end Surroundings

/-! ## Tags that were resolved -/

theorem StartTag.made_ownDefault (around : Surroundings) (name : QName)
    (prefixUri default : Option String) (declared : Bindings) (attributes : List XmlAttribute) :
    (made around name prefixUri default declared attributes).ownDefault =
      if name.space = none then default.filter (· ≠ "") else none := by
  obtain ⟨space, localPart⟩ := name
  cases space with
  | some space => rfl
  | none =>
      cases default with
      | none => rfl
      | some uri =>
          by_cases empty : uri = ""
          · subst empty
            rfl
          · simp [made, empty, Option.filter_some]

/-- The tag may have come out of these surroundings. -/
structure StartTag.WellMade (around : Surroundings) (tag : StartTag) : Prop where
  named : tag.name.WellFormed
  nameBound : ∀ space ∈ tag.name.space, space ≠ "xml" → (innermostUri? tag.levels space).isSome
  default : ∀ uri ∈ tag.ownDefault, tag.name.space = none ∧ uri ≠ ""
  outer : tag.outerBindings = around.levels
  bindings : (tag.ownBindings.map Prod.fst).Nodup
  bindingsFit : ∀ binding ∈ tag.ownBindings, isLocalName binding.1 ∧ binding.2 ≠ ""
  attributes : (tag.attributes.map (·.name)).Nodup
  sorted : tag.attributes.Pairwise fun left right => left.name.precedes right.name
  apart : tag.attributes.Pairwise XmlAttribute.Apart
  attributesFit : ∀ attr ∈ tag.attributes, attr.name.WellFormed ∧ attr.name.isPlain ∧
    attr.name.Bound tag.levels ∧ attr.uri = attr.name.uri? tag.levels

theorem wellMade_of_declares {around : Surroundings} {name : QName}
    {given : List (QName × String)} {default : Option String} (named : name.WellFormed)
    (allNamed : ∀ attr ∈ given, attr.1.WellFormed)
    (declares : Declares around name given default) :
    (StartTag.of around name given default).WellMade around := by
  have distinct := nodup_bindingsIn declares.bindings
  have resolved : ((ofKind QName.isPlain given).map (XmlAttribute.of (around.levelsOf given))).map
      (·.name) = (ofKind QName.isPlain given).map Prod.fst := by
    rw [List.map_map]
    rfl
  obtain ⟨kept, apart⟩ := foldl_addAttribute
    ((ofKind QName.isPlain given).map (.of (around.levelsOf given))) [] .nil
  refine ⟨named, ?_, ?_, rfl, Surroundings.nodup_bindingsOf distinct, ?_, ?_, ?_, apart, ?_⟩
  · intro space prefixed other
    have bound := declares.named space prefixed
    rwa [← Surroundings.innermostUri?_bindingsOf distinct other] at bound
  · intro uri declared
    rw [StartTag.of, StartTag.made_ownDefault] at declared
    split at declared
    · exact ⟨‹_›, by simpa using (Option.filter_eq_some_iff.mp declared).2⟩
    · cases declared
  · rintro ⟨space, uri⟩ member
    obtain member | same := Surroundings.mem_or_eq_of_mem_bindingsOf member
    · have declared := mem_bindingsIn.mp member
      exact ⟨(allNamed _ declared).2,
        declares.nonempty _ (mem_ofKind.mpr ⟨declared, by simp [QName.isBinding]⟩)⟩
    · cases same
      decide
  · exact (resolved ▸ declares.plain).sublist (kept.map _)
  · refine List.Pairwise.sublist kept (List.pairwise_map.mpr ?_)
    exact (byName_pairwise Prod.fst given).filter _
  · intro attr member
    obtain ⟨⟨name, value⟩, plain, rfl⟩ := List.mem_map.mp (kept.subset member)
    obtain ⟨member, isPlain⟩ := mem_ofKind.mp plain
    exact ⟨allNamed _ member, isPlain, declares.bound _ plain, rfl⟩

end DocPreview.Xml
