import DocPreview.Proofs.Results
import DocPreview.Proofs.Xml.Order

/-!
# What a tag resolves to

Attributes bind prefixes, declare a default namespace, or declare nothing. A tag resolves exactly
when its attributes declare well, and what it resolves to depends on their names and values alone.
-/

set_option autoImplicit false

namespace DocPreview.Xml

/-! ## Names of attributes -/

namespace QName

def isBinding (name : QName) : Bool :=
  name.space == some "xmlns"

def isDefault (name : QName) : Bool :=
  !name.isBinding && name.localPart == "xmlns"

/-- An attribute of this name declares nothing. -/
def isPlain (name : QName) : Bool :=
  !name.isBinding && !name.isDefault

def uri? (name : QName) (levels : List Bindings) : Option String :=
  name.space.bind (innermostUri? levels)

def Bound (name : QName) (levels : List Bindings) : Prop :=
  ∀ space ∈ name.space, (innermostUri? levels space).isSome

end QName

theorem boundUri_eq_ok {levels : List Bindings} {name : Located QName} {uri : Option String} :
    boundUri levels name = .ok uri ↔ name.value.Bound levels ∧ name.value.uri? levels = uri := by
  unfold boundUri QName.Bound QName.uri?
  cases name.value.space with
  | none => simp
  | some space => cases found : innermostUri? levels space <;> simp [found]

/-! ## Written attributes -/

namespace WrittenAttribute

def key (attr : WrittenAttribute) : QName :=
  attr.name.value

def content (attr : WrittenAttribute) : String :=
  (decodeValue attr.value).toOption.getD ""

def Decodes (attr : WrittenAttribute) : Prop :=
  decodeValue attr.value = .ok attr.content

def decoded (attr : WrittenAttribute) : QName × String :=
  (attr.key, attr.content)

theorem decodeValue_eq_ok {attr : WrittenAttribute} {value : String} :
    decodeValue attr.value = .ok value ↔ attr.Decodes ∧ value = attr.content := by
  unfold Decodes content
  cases decodeValue attr.value with
  | error failure => simp
  | ok found => simp [Except.toOption, eq_comm]

end WrittenAttribute

theorem declaredBinding_eq_ok (attr : WrittenAttribute) (binding : String × String) :
    declaredBinding attr = .ok binding ↔
      (attr.Decodes ∧ attr.content ≠ "") ∧ binding = (attr.key.localPart, attr.content) := by
  simp only [declaredBinding, bind_eq_ok, WrittenAttribute.decodeValue_eq_ok]
  constructor
  · rintro ⟨_, ⟨decodes, rfl⟩, made⟩
    by_cases empty : attr.content.isEmpty
    · simp [empty] at made
    · simp only [empty, Bool.false_eq_true, if_false] at made
      exact ⟨⟨decodes, by simpa using empty⟩, (Except.ok.inj made).symm⟩
  · rintro ⟨⟨decodes, nonempty⟩, rfl⟩
    exact ⟨_, ⟨decodes, rfl⟩, by simp [nonempty]; rfl⟩

theorem declaredDefault_eq_ok {attributes : List WrittenAttribute} {default : Option String} :
    declaredDefault attributes = .ok default ↔
      (∀ attr ∈ attributes, attr.Decodes) ∧ attributes.map (·.content) = default.toList := by
  match attributes with
  | [] => cases default <;> simp [declaredDefault]
  | [only] =>
      simp only [declaredDefault, bind_eq_ok, WrittenAttribute.decodeValue_eq_ok,
        List.forall_mem_singleton, List.map_singleton]
      constructor
      · rintro ⟨_, ⟨decodes, rfl⟩, made⟩
        obtain rfl := Except.ok.inj made
        exact ⟨decodes, rfl⟩
      · rintro ⟨decodes, declared⟩
        cases default with
        | none => cases declared
        | some uri =>
            obtain rfl := List.head_eq_of_cons_eq declared
            exact ⟨_, ⟨decodes, rfl⟩, rfl⟩
  | _ :: _ :: _ => cases default <;> simp [declaredDefault]

/-! ## Attributes with namespaces -/

namespace XmlAttribute

/-- The attribute of this name and value where these prefixes are bound. -/
def of (levels : List Bindings) (attr : QName × String) : XmlAttribute :=
  ⟨attr.1, attr.1.uri? levels, attr.2⟩

/-- The attributes have no local name and namespace in common. -/
def Apart (first second : XmlAttribute) : Prop :=
  first.name.localPart ≠ second.name.localPart ∨ first.uri ≠ second.uri

end XmlAttribute

theorem resolveAttributes_eq_ok {levels : List Bindings} {before resolved : List XmlAttribute}
    {written : List WrittenAttribute} :
    resolveAttributes levels before written = .ok resolved ↔
      (∀ attr ∈ written, attr.Decodes) ∧ (∀ attr ∈ written, attr.key.Bound levels) ∧
        resolved = (written.map fun attr => .of levels attr.decoded).foldl addAttribute before := by
  induction written generalizing before with
  | nil => simp [resolveAttributes, eq_comm]
  | cons attr written ih =>
      simp only [resolveAttributes, bind_eq_ok, WrittenAttribute.decodeValue_eq_ok, boundUri_eq_ok,
        ih, List.forall_mem_cons, List.map_cons, List.foldl_cons]
      constructor
      · rintro ⟨_, ⟨decodes, rfl⟩, _, ⟨bound, rfl⟩, allDecode, allBound, rfl⟩
        exact ⟨⟨decodes, allDecode⟩, ⟨bound, allBound⟩, rfl⟩
      · rintro ⟨⟨decodes, allDecode⟩, ⟨bound, allBound⟩, rfl⟩
        exact ⟨_, ⟨decodes, rfl⟩, _, ⟨bound, rfl⟩, allDecode, allBound, rfl⟩

theorem addAttribute_pairwise {before : List XmlAttribute} (added : XmlAttribute)
    (apart : before.Pairwise XmlAttribute.Apart) :
    (addAttribute before added).Pairwise XmlAttribute.Apart := by
  refine List.pairwise_append.mpr ⟨apart.filter _, List.pairwise_singleton _ _, ?_⟩
  intro attr member other otherMember
  obtain rfl := List.mem_singleton.mp otherMember
  have keeps := (List.mem_filter.mp member).2
  simpa [XmlAttribute.Apart] using keeps

/-- Of several attributes that are not apart the last one is kept. -/
theorem foldl_addAttribute (attributes before : List XmlAttribute)
    (apart : before.Pairwise XmlAttribute.Apart) :
    (attributes.foldl addAttribute before).Sublist (before ++ attributes) ∧
      (attributes.foldl addAttribute before).Pairwise XmlAttribute.Apart := by
  induction attributes generalizing before with
  | nil => simpa using apart
  | cons added attributes ih =>
      obtain ⟨sublist, apart⟩ := ih _ (addAttribute_pairwise added apart)
      refine ⟨?_, apart⟩
      rw [List.append_cons]
      exact sublist.trans ((List.filter_sublist.append_right [added]).append_right attributes)

/-- Attributes that are apart from each other are all kept, in their order. -/
theorem foldl_addAttribute_of_apart {attributes before : List XmlAttribute}
    (apart : (before ++ attributes).Pairwise XmlAttribute.Apart) :
    attributes.foldl addAttribute before = before ++ attributes := by
  induction attributes generalizing before with
  | nil => simp
  | cons added attributes ih =>
      have kept : addAttribute before added = before ++ [added] := by
        rw [addAttribute, List.filter_eq_self.mpr]
        intro attr member
        have keeps := (List.pairwise_append.mp apart).2.2 attr member added List.mem_cons_self
        simpa [XmlAttribute.Apart] using keeps
      rw [List.append_cons] at apart ⊢
      rw [List.foldl_cons, kept, ih apart]

theorem foldl_addAttribute_nil {attributes : List XmlAttribute}
    (apart : attributes.Pairwise XmlAttribute.Apart) :
    attributes.foldl addAttribute [] = attributes :=
  foldl_addAttribute_of_apart apart

/-! ## What attributes declare -/

/-- The attributes with names of one kind, in the order of their names. -/
def ofKind (kind : QName → Bool) (given : List (QName × String)) : List (QName × String) :=
  (byName Prod.fst given).filter fun attr => kind attr.1

def bindingsIn (given : List (QName × String)) : Bindings :=
  (ofKind QName.isBinding given).map fun attr => (attr.1.localPart, attr.2)

/-- What the element binds that stands here and has these attributes, and what is bound around
it. -/
def Surroundings.levelsOf (around : Surroundings) (given : List (QName × String)) :
    List Bindings :=
  around.bindingsOf (bindingsIn given) :: around.levels

/-- A tag with this name and these attributes resolves where it stands. -/
structure Declares (around : Surroundings) (name : QName) (given : List (QName × String))
    (default : Option String) : Prop where
  plain : ((ofKind QName.isPlain given).map Prod.fst).Nodup
  bindings : ((ofKind QName.isBinding given).map Prod.fst).Nodup
  default : (ofKind QName.isDefault given).map Prod.snd = default.toList
  nonempty : ∀ attr ∈ ofKind QName.isBinding given, attr.2 ≠ ""
  named : name.Bound (bindingsIn given :: around.levels)
  bound : ∀ attr ∈ ofKind QName.isPlain given, attr.1.Bound (around.levelsOf given)

/-- The tag that is made of what has been found. A name with a prefix leaves the default namespace
alone, and declaring it empty takes it away. -/
def StartTag.made (around : Surroundings) (name : QName) (prefixUri default : Option String)
    (declared : Bindings) (attributes : List XmlAttribute) : StartTag :=
  let (uri, ownDefault) :=
    match name.space, default with
    | some _, _ => (prefixUri, none)
    | none, some "" => (none, none)
    | none, some uri => (some uri, some uri)
    | none, none => (around.defaultUri, none)
  ⟨name, uri, ownDefault, around.bindingsOf declared, around.levels, attributes⟩

/-- The tag that is made of what the attributes declare. -/
def StartTag.of (around : Surroundings) (name : QName) (given : List (QName × String))
    (default : Option String) : StartTag :=
  .made around name (name.uri? (bindingsIn given :: around.levels)) default (bindingsIn given)
    (((ofKind QName.isPlain given).map (.of (around.levelsOf given))).foldl addAttribute [])

namespace Surroundings

def outermost : Surroundings :=
  ⟨true, [], none⟩

/-- What an element with this tag declares for the tags inside it. -/
def inside (around : Surroundings) (tag : StartTag) : Surroundings :=
  ⟨false, tag.levels, tag.ownDefault.or around.defaultUri⟩

end Surroundings

/-! ## Resolving -/

theorem refuseRepeated_eq_ok {problem : Problem} {attributes : List WrittenAttribute}
    {accepted : Unit} :
    refuseRepeated problem attributes = .ok accepted ↔ firstRepeated? attributes = none := by
  unfold refuseRepeated
  split <;> simp [*]

/-- The written attributes with names of one kind, in the order of their names. -/
def writtenOfKind (kind : QName → Bool) (written : List WrittenAttribute) :
    List WrittenAttribute :=
  (byName WrittenAttribute.key written).filter fun attr => kind attr.key

theorem ofKind_decoded (kind : QName → Bool) (written : List WrittenAttribute) :
    ofKind kind (written.map (·.decoded)) = (writtenOfKind kind written).map (·.decoded) := by
  rw [ofKind, ← map_byName, List.filter_map]
  rfl

theorem firstRepeated?_writtenOfKind (kind : QName → Bool) (written : List WrittenAttribute) :
    firstRepeated? (writtenOfKind kind written) = none ↔
      ((ofKind kind (written.map (·.decoded))).map Prod.fst).Nodup := by
  rw [ofKind_decoded, List.map_map]
  exact ⟨nodup_of_firstRepeated? ((byName_pairwise _ written).filter _), firstRepeated?_eq_none⟩

/-- Every attribute is of one of three kinds. -/
theorem forall_mem_written {accepts : WrittenAttribute → Prop} {written : List WrittenAttribute} :
    (∀ attr ∈ written, accepts attr) ↔
      (∀ attr ∈ writtenOfKind QName.isPlain written, accepts attr) ∧
        (∀ attr ∈ writtenOfKind QName.isBinding written, accepts attr) ∧
        ∀ attr ∈ writtenOfKind QName.isDefault written, accepts attr := by
  simp only [writtenOfKind, List.mem_filter, (byName_perm _ _).mem_iff]
  constructor
  · exact fun all => ⟨fun attr member => all attr member.1, fun attr member => all attr member.1,
      fun attr member => all attr member.1⟩
  · rintro ⟨plain, bindings, defaults⟩ attr member
    by_cases isBinding : attr.key.isBinding
    · exact bindings attr ⟨member, isBinding⟩
    by_cases isDefault : attr.key.isDefault
    · exact defaults attr ⟨member, isDefault⟩
    · exact plain attr ⟨member, by simp [QName.isPlain, isBinding, isDefault]⟩

theorem resolveTag_eq (around : Surroundings) (name : Located QName)
    (written : List WrittenAttribute) :
    resolveTag around name written = (do
      refuseRepeated .duplicateAttribute (writtenOfKind QName.isPlain written)
      refuseRepeated .redefinedNamespace (writtenOfKind QName.isBinding written)
      let default ← declaredDefault (writtenOfKind QName.isDefault written)
      let declared ← (writtenOfKind QName.isBinding written).mapM declaredBinding
      let prefixUri ← boundUri (declared :: around.levels) name
      let attributes ← resolveAttributes (around.bindingsOf declared :: around.levels) []
        (writtenOfKind QName.isPlain written)
      return .made around name.value prefixUri default declared attributes) :=
  rfl

/-- Attributes that are written in the order of their names are taken as they stand. -/
theorem resolveTag_of_sorted (around : Surroundings) (name : Located QName)
    {written : List WrittenAttribute}
    (sorted : written.Pairwise fun left right => left.key.precedes right.key) :
    resolveTag around name written = (do
      refuseRepeated .duplicateAttribute (written.filter (·.key.isPlain))
      refuseRepeated .redefinedNamespace (written.filter (·.key.isBinding))
      let default ← declaredDefault (written.filter (·.key.isDefault))
      let declared ← (written.filter (·.key.isBinding)).mapM declaredBinding
      let prefixUri ← boundUri (declared :: around.levels) name
      let attributes ← resolveAttributes (around.bindingsOf declared :: around.levels) []
        (written.filter (·.key.isPlain))
      return .made around name.value prefixUri default declared attributes) := by
  have same : byName WrittenAttribute.key written = written := List.mergeSort_of_pairwise sorted
  simp only [resolveTag_eq, writtenOfKind, same]

theorem resolveTag_eq_ok {around : Surroundings} {name : Located QName}
    {written : List WrittenAttribute} {tag : StartTag} :
    resolveTag around name written = .ok tag ↔
      (∀ attr ∈ written, attr.Decodes) ∧ ∃ default,
        Declares around name.value (written.map (·.decoded)) default ∧
          tag = .of around name.value (written.map (·.decoded)) default := by
  have plainSame := ofKind_decoded QName.isPlain written
  have defaultSame := ofKind_decoded QName.isDefault written
  have bindingSame := ofKind_decoded QName.isBinding written
  have declaredSame : bindingsIn (written.map (·.decoded)) =
      (writtenOfKind QName.isBinding written).map fun attr =>
        (attr.key.localPart, attr.content) := by
    rw [bindingsIn, bindingSame, List.map_map]
    rfl
  rw [resolveTag_eq, forall_mem_written]
  simp only [bind_eq_ok, refuseRepeated_eq_ok, boundUri_eq_ok, declaredDefault_eq_ok,
    mapM_eq_ok declaredBinding_eq_ok, resolveAttributes_eq_ok, firstRepeated?_writtenOfKind]
  constructor
  · rintro ⟨_, plain, _, bindings, default, ⟨defaultDecodes, declared⟩, _, ⟨decodes, rfl⟩, _,
      ⟨named, rfl⟩, _, ⟨plainDecode, bound, rfl⟩, made⟩
    rw [← declaredSame] at named bound made
    refine ⟨⟨plainDecode, fun attr member => (decodes attr member).1, defaultDecodes⟩, default,
      ⟨plain, bindings, ?_, ?_, named, ?_⟩, ?_⟩
    · rw [defaultSame, List.map_map]
      exact declared
    · rw [bindingSame]
      exact List.forall_mem_map.mpr fun attr member => (decodes attr member).2
    · rw [plainSame]
      exact List.forall_mem_map.mpr bound
    · rw [StartTag.of, plainSame, List.map_map]
      exact (Except.ok.inj made).symm
  · rintro ⟨⟨plainDecode, decode, defaultDecodes⟩, default, ⟨plain, bindings, declared, nonempty,
      named, bound⟩, rfl⟩
    rw [defaultSame, List.map_map] at declared
    rw [bindingSame] at nonempty
    rw [plainSame] at bound
    rw [declaredSame] at named
    refine ⟨(), plain, (), bindings, default, ⟨defaultDecodes, declared⟩, _, ⟨?_, rfl⟩, _,
      ⟨named, rfl⟩, _, ⟨plainDecode, ?_, rfl⟩, ?_⟩
    · exact fun attr member => ⟨decode attr member, List.forall_mem_map.mp nonempty attr member⟩
    · rw [← declaredSame]
      exact List.forall_mem_map.mp bound
    · rw [StartTag.of, plainSame, List.map_map, ← declaredSame]
      rfl

end DocPreview.Xml
