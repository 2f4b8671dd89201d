import DocPreview.Proofs.Comment.Settled
import DocPreview.Proofs.Xml.Pieces
import DocPreview.Proofs.Xml.Tags
import Mathlib.Data.List.Forall2

/-!
# Reading back written trees

The steps over the text of a tree build the tree again, provided that the tag of each element
resolves where it stands. Runs of characters and references come back as texts of their own, so
what comes back is settled before it is compared.
-/

set_option autoImplicit false

namespace DocPreview

open Xml (isLocalName namedCharacters QName)

namespace Node

/-! ## Marks and references -/

/-- How marks are escaped: each as a reference by a name, any other character as itself. -/
structure Escapes (escape : Char → List Char) (isMark : Char → Bool) : Prop where
  plain : ∀ char, isMark char = false → escape char = [char]
  mark : ∀ char, isMark char → ∃ word, isLocalName word ∧
    namedCharacters.lookup word = some (String.singleton char) ∧
    escape char = '&' :: (word.toList ++ [';'])

theorem escapes_escapeChar : Escapes escapeChar isMark where
  plain char plain := by
    simp only [isMark, Bool.or_eq_false_iff, beq_eq_false_iff_ne] at plain
    simp [escapeChar, plain]
  mark char mark := by
    simp only [isMark, Bool.or_eq_true, beq_iff_eq] at mark
    obtain (rfl | rfl) | rfl := mark
    · exact ⟨"amp", by decide, by decide, rfl⟩
    · exact ⟨"lt", by decide, by decide, rfl⟩
    · exact ⟨"gt", by decide, by decide, rfl⟩

theorem escapes_escapeQuoted : Escapes escapeQuoted isQuotedMark where
  plain char plain := by
    obtain ⟨other, plain⟩ := Bool.or_eq_false_iff.mp plain
    simp only [beq_eq_false_iff_ne] at other
    simp [escapeQuoted, escapes_escapeChar.plain char plain]
  mark char mark := by
    obtain quote | mark := Bool.or_eq_true_iff.mp mark
    · obtain rfl := eq_of_beq quote
      exact ⟨"quot", by decide, by decide, rfl⟩
    · obtain ⟨word, named, found, escaped⟩ := escapes_escapeChar.mark char mark
      refine ⟨word, named, found, ?_⟩
      have other : char ≠ '"' := by
        rintro rfl
        exact absurd mark (by decide)
      simp [escapeQuoted, escaped]

namespace Escapes

variable {escape : Char → List Char} {isMark : Char → Bool} (escapes : Escapes escape isMark)

include escapes

theorem flatMap_plain_append {taken : List Char} (plain : ∀ char ∈ taken, isMark char = false)
    (chars rest : List Char) :
    (taken ++ chars).flatMap escape ++ rest = taken ++ (chars.flatMap escape ++ rest) := by
  induction taken with
  | nil => rfl
  | cons char taken ih =>
      obtain ⟨charPlain, plain⟩ := List.forall_mem_cons.mp plain
      rw [List.cons_append, List.flatMap_cons, escapes.plain char charPlain,
        List.singleton_append, List.cons_append, ih plain, List.cons_append]

theorem flatMap_mark_cons {char : Char} (mark : isMark char) (chars rest : List Char) :
    ∃ word, isLocalName word ∧ namedCharacters.lookup word = some (String.singleton char) ∧
      (char :: chars).flatMap escape ++ rest =
        '&' :: (word.toList ++ ';' :: (chars.flatMap escape ++ rest)) := by
  obtain ⟨word, named, found, escaped⟩ := escapes.mark char mark
  refine ⟨word, named, found, ?_⟩
  simp [escaped]

/-- What is escaped of characters that begin with a mark begins a reference, and nothing else
stands before what follows. -/
theorem head?_flatMap {chars rest : List Char} (marked : ∀ char ∈ chars.head?, isMark char) :
    ∀ char ∈ (chars.flatMap escape ++ rest).head?, char = '&' ∨ char ∈ rest.head? := by
  intro char stands
  cases chars with
  | nil => exact .inr stands
  | cons first chars =>
      obtain ⟨word, _, _, escaped⟩ := escapes.mark first (marked first rfl)
      simp only [List.flatMap_cons, escaped] at stands
      exact .inl (Option.some.inj stands).symm

end Escapes

theorem attributesXml_cons (name value : String) (attributes : List (String × String)) :
    (attributesXml ((name, value) :: attributes)).toList = ' ' :: (name.toList ++ '=' :: '"' ::
      (value.toList.flatMap escapeQuoted ++ '"' :: (attributesXml attributes).toList)) := by
  simp [attributesXml]

/-- Characters are run through in runs without marks, and mark by mark. -/
theorem runs_induction (isMark : Char → Bool) {motive : List Char → Prop} (nil : motive [])
    (mark : ∀ char rest, isMark char → motive rest → motive (char :: rest))
    (run : ∀ taken rest, taken ≠ [] → (∀ char ∈ taken, isMark char = false) →
      (∀ char ∈ rest.head?, isMark char) → motive rest → motive (taken ++ rest))
    (chars : List Char) : motive chars := by
  match chars with
  | [] => exact nil
  | char :: chars =>
      by_cases marked : isMark char
      · exact mark char chars marked (runs_induction isMark nil mark run chars)
      · have split := (char :: chars).takeWhile_append_dropWhile (p := fun char => !isMark char)
        have fewer : ((char :: chars).dropWhile fun char => !isMark char).length <
            (char :: chars).length := by
          have dropped := List.length_dropWhile_le (fun char => !isMark char) chars
          simp only [List.dropWhile_cons, marked, Bool.not_false, if_true, List.length_cons]
          omega
        rw [← split]
        refine run _ _ ?_ ?_ ?_ (runs_induction isMark nil mark run _)
        · simp [marked]
        · intro other member
          simpa using List.mem_takeWhile_imp member
        · intro other stands
          have stops := List.head?_dropWhile_not (fun char => !isMark char) (char :: chars)
          rw [Option.mem_def.mp stands] at stops
          simpa using stops
termination_by chars.length
decreasing_by
  · exact Nat.lt_succ_self _
  · exact fewer

end Node

namespace Xml

/-! ## Attributes -/

/-- The attribute as it was written has this name and stands for this value. -/
def WrittenAttribute.Writes (attr : QName × String) (written : WrittenAttribute) : Prop :=
  written.name.value = attr.1 ∧ decodeValue written.value = .ok attr.2

/-- The reference by a name stands for its character. -/
theorem Reference.decode_named {word text : String}
    (found : namedCharacters.lookup word = some text) (remaining : Nat) :
    Reference.decode ⟨.named, ⟨word, remaining⟩⟩ = .ok text := by
  simp [Reference.decode, found]

/-! ## Trees whose tags resolve -/

/-- Read where it stands, a tag with this name and these attributes resolves to the given one. -/
structure Resolves (around : Surroundings) (name : String) (attributes : List (String × String))
    (tag : StartTag) : Prop where
  named : tag.name.WellFormed
  text_name : tag.name.text = name
  resolves : ∃ given : List (QName × String), (∀ attr ∈ given, attr.1.WellFormed) ∧
    (given.map fun attr => (attr.1.text, attr.2)) = attributes ∧
    ∀ (name : Located QName) (written : List WrittenAttribute), name.value = tag.name →
      List.Forall₂ WrittenAttribute.Writes given written →
      resolveTag around name written = .ok tag

mutual

/-- The second node is what the first one is read back as. -/
def ReadsAs (around : Surroundings) : Node → Node → Prop
  | .text content, other => other = .text content
  | .element name attributes children, other => ∃ tag others,
    Resolves around name attributes tag ∧ ReadAllAs (around.inside tag) children others ∧
      other = .element tag.name.text tag.writtenAttributes others

/-- The second nodes are what the first ones are read back as. -/
def ReadAllAs (around : Surroundings) : List Node → List Node → Prop
  | [], others => others = []
  | node :: nodes, others => ∃ other rest,
    ReadsAs around node other ∧ ReadAllAs around nodes rest ∧ others = other :: rest

end

namespace Reading

/-- The parts of a value are read up to the quote behind it. -/
theorem steps_value (depth : Nat) (name : Located QName) (value rest : List Char) :
    ∃ parts, decodeValue parts = .ok (String.ofList value) ∧
      ∀ elements nodes tagName before earlier,
        Steps
          ⟨.value depth '"', value.flatMap Node.escapeQuoted ++ '"' :: rest,
            ⟨elements, nodes, some (tagName, ⟨name, earlier⟩ :: before)⟩⟩
          ⟨.value depth '"', '"' :: rest,
            ⟨elements, nodes, some (tagName, ⟨name, earlier ++ parts⟩ :: before)⟩⟩ := by
  -- Each mark becomes one reference and each run between marks one text.
  induction value using Node.runs_induction Node.isQuotedMark with
  | nil =>
      refine ⟨[], rfl, fun elements nodes tagName before earlier => ?_⟩
      rw [List.append_nil]
      exact .refl
  | mark char value mark ih =>
      obtain ⟨word, named, found, whole⟩ :=
        Node.escapes_escapeQuoted.flatMap_mark_cons mark value ('"' :: rest)
      obtain ⟨parts, decodes, steps⟩ := ih
      rw [whole]
      generalize value.flatMap Node.escapeQuoted ++ '"' :: rest = left at steps ⊢
      let reference : Reference := ⟨.named, ⟨word, (word.toList ++ ';' :: left).length⟩⟩
      refine ⟨.reference reference :: parts, ?_, fun elements nodes tagName before earlier => ?_⟩
      · rw [decodeValue, Reference.decode_named found, decodes, String.ofList_cons]
        rfl
      · have later := steps elements nodes tagName before (earlier ++ [.reference reference])
        rw [List.append_assoc, List.singleton_append] at later
        exact .head (.event (Scanner.nextEvent_attributeReference depth named left)
          (by simp only [List.length_cons, List.length_append]; omega) rfl) later
  | run taken value nonempty plain marked ih =>
      obtain ⟨parts, decodes, steps⟩ := ih
      rw [Node.escapes_escapeQuoted.flatMap_plain_append plain]
      generalize spelled : value.flatMap Node.escapeQuoted ++ '"' :: rest = left at steps ⊢
      refine ⟨.text (String.ofList taken) :: parts, ?_,
        fun elements nodes tagName before earlier => ?_⟩
      · simp [decodeValue, decodes, String.ofList_append]
      · have ends : ∀ char ∈ left.head?, char = '&' ∨ char = '"' := by
          rw [← spelled]
          intro char stands
          obtain reference | quote := Node.escapes_escapeQuoted.head?_flatMap marked char stands
          · exact .inl reference
          · exact .inr (Option.some.inj quote).symm
        have later := steps elements nodes tagName before
          (earlier ++ [.text (String.ofList taken)])
        rw [List.append_assoc, List.singleton_append] at later
        refine .head (.event (Scanner.nextEvent_attributeText depth nonempty plain ends) ?_ rfl)
          later
        have := List.length_pos_iff.mpr nonempty
        simp
        omega

/-- The attributes of a tag are read up to what stands behind them. -/
theorem steps_attributes (depth : Nat) {given : List (QName × String)}
    (named : ∀ attr ∈ given, attr.1.WellFormed) (rest : List Char) :
    ∃ written, List.Forall₂ WrittenAttribute.Writes given written ∧
      ∀ elements nodes tagName before,
        Steps
          ⟨.tag depth,
            (Node.attributesXml (given.map fun attr => (attr.1.text, attr.2))).toList ++ rest,
            ⟨elements, nodes, some (tagName, before)⟩⟩
          ⟨.tag depth, rest, ⟨elements, nodes, some (tagName, written.reverse ++ before)⟩⟩ := by
  induction given with
  | nil => exact ⟨[], .nil, fun _ _ _ _ => .refl⟩
  | cons attr given ih =>
      obtain ⟨attrNamed, furtherNamed⟩ := List.forall_mem_cons.mp named
      obtain ⟨written, writes, steps⟩ := ih furtherNamed
      obtain ⟨name, value⟩ := attr
      generalize spelled :
        (Node.attributesXml (given.map fun attr => (attr.1.text, attr.2))).toList ++ rest = left
        at steps
      have whole : (Node.attributesXml (((name, value) :: given).map fun attr =>
          (attr.1.text, attr.2))).toList ++ rest = ' ' :: (name.text.toList ++ '=' :: '"' ::
            (value.toList.flatMap Node.escapeQuoted ++ '"' :: left)) := by
        simp [Node.attributesXml_cons, ← spelled]
      let located : Located QName := ⟨name, (name.text.toList ++ '=' :: '"' ::
        (value.toList.flatMap Node.escapeQuoted ++ '"' :: left)).length⟩
      obtain ⟨parts, decodes, valueSteps⟩ := steps_value depth located value.toList left
      rw [String.ofList_toList] at decodes
      refine ⟨⟨located, parts⟩ :: written, .cons ⟨rfl, decodes⟩ writes,
        fun elements nodes tagName before => ?_⟩
      rw [whole, List.reverse_cons, List.append_assoc, List.singleton_append]
      refine .head (.event (Scanner.nextEvent_openAttribute attrNamed depth _)
        (by simp only [List.length_cons, List.length_append]; omega) rfl) ?_
      refine (valueSteps _ _ _ _ []).trans ?_
      exact .head (.event (Scanner.nextEvent_closeAttribute depth left) (by simp) rfl)
        (steps _ _ _ _)

/-- The name and the attributes of a tag are read, and together they resolve. -/
theorem steps_startTag {phase : Phase} {depth : Nat} (begins : Scanner.Begins phase depth)
    {around : Surroundings} {name : String} {attributes : List (String × String)} {tag : StartTag}
    (resolves : Resolves around name attributes tag) {rest : List Char}
    (ends : Scanner.EndsName rest) :
    ∃ located written, resolveTag around located written = .ok tag ∧ ∀ elements nodes,
      Steps
        ⟨phase, '<' :: (name.toList ++ ((Node.attributesXml attributes).toList ++ rest)),
          ⟨elements, nodes, none⟩⟩
        ⟨.tag (depth + 1), rest, ⟨elements, nodes, some (located, written.reverse)⟩⟩ := by
  obtain ⟨given, named, rfl, resolved⟩ := resolves.resolves
  obtain ⟨written, writes, steps⟩ := steps_attributes (depth + 1) named rest
  rw [← resolves.text_name]
  generalize spelled :
    (Node.attributesXml (given.map fun attr => (attr.1.text, attr.2))).toList ++ rest = left
    at steps
  have leftEnds : Scanner.EndsName left := by
    rw [← spelled]
    cases given with
    | nil => exact ends
    | cons attr given =>
        rw [List.map_cons, Node.attributesXml_cons]
        rintro _ ⟨⟩
        decide
  let located : Located QName := ⟨tag.name, (tag.name.text.toList ++ left).length⟩
  refine ⟨located, written, resolved located written rfl writes, fun elements nodes => ?_⟩
  have later := steps elements nodes located []
  rw [List.append_nil] at later
  exact .head (.event (Scanner.nextEvent_openTag resolves.named begins leftEnds)
    (by simp only [List.length_cons, List.length_append]; omega) rfl) later

end Reading

/-! ## Content -/

def OpenElement.grown (element : OpenElement) (made : List XmlNode) : OpenElement :=
  { element with children := made.reverse ++ element.children }

theorem OpenElement.grown_append (element : OpenElement) (first second : List XmlNode) :
    element.grown (first ++ second) = (element.grown first).grown second := by
  simp [grown]

theorem XmlNode.toNodes_append (first second : List XmlNode) :
    toNodes (first ++ second) = toNodes first ++ toNodes second := by
  induction first with
  | nil => rfl
  | cons node first ih => rw [List.cons_append, toNodes, ih, toNodes, List.append_assoc]

theorem XmlNode.toNodes_singleton_element (tag : StartTag) (children : List XmlNode) :
    toNodes [.element tag children] =
      [.element tag.name.text tag.writtenAttributes (toNodes children)] := by
  simp [toNodes, toNode?]

theorem XmlNode.settled_toNodes_text_cons (content : String) (nodes : List XmlNode)
    (following : List Node) :
    Node.settled (toNodes (.text content :: nodes) ++ following) =
      Node.joinText content (Node.settled (toNodes nodes ++ following)) := by
  rw [toNodes, toNode?, Option.toList_some, List.append_assoc, List.singleton_append,
    Node.settled_text_cons]

namespace Reading

/-- Characters are read as texts up to the markup behind them. -/
theorem steps_text (depth : Nat) (content rest : List Char) :
    ∃ made, (∀ following, Node.settled (XmlNode.toNodes made ++ following) =
        Node.joinText (String.ofList content) (Node.settled following)) ∧
      ∀ element elements nodes,
        Steps
          ⟨.content depth, content.flatMap Node.escapeChar ++ '<' :: rest,
            ⟨element :: elements, nodes, none⟩⟩
          ⟨.content depth, '<' :: rest, ⟨element.grown made :: elements, nodes, none⟩⟩ := by
  induction content using Node.runs_induction Node.isMark with
  | nil =>
      refine ⟨[], fun following => ?_, fun _ _ _ => .refl⟩
      exact (Node.joinText_empty _).symm
  | mark char content mark ih =>
      obtain ⟨word, named, found, whole⟩ :=
        Node.escapes_escapeChar.flatMap_mark_cons mark content ('<' :: rest)
      obtain ⟨made, settles, steps⟩ := ih
      rw [whole]
      generalize content.flatMap Node.escapeChar ++ '<' :: rest = left at steps ⊢
      refine ⟨.text (String.singleton char) :: made, fun following => ?_,
        fun element elements nodes => ?_⟩
      · rw [XmlNode.settled_toNodes_text_cons, settles, ← Node.joinText_append, String.ofList_cons]
      · have later := steps (element.grown [.text (String.singleton char)]) elements nodes
        rw [← OpenElement.grown_append] at later
        refine .head (.event (Scanner.nextEvent_reference depth named left) ?_ ?_) later
        · simp only [List.length_cons, List.length_append]
          omega
        rw [Building.step, Reference.decode_named found]
        rfl
  | run taken content nonempty plain marked ih =>
      obtain ⟨made, settles, steps⟩ := ih
      refine ⟨.text (String.ofList taken) :: made, fun following => ?_,
        fun element elements nodes => ?_⟩
      · rw [XmlNode.settled_toNodes_text_cons, settles, ← Node.joinText_append,
          String.ofList_append]
      · have later := steps (element.grown [.text (String.ofList taken)]) elements nodes
        rw [← OpenElement.grown_append] at later
        obtain ⟨mark, left, spelled⟩ : ∃ mark left,
            content.flatMap Node.escapeChar ++ '<' :: rest = mark :: left :=
          List.exists_cons_of_ne_nil (by simp)
        have isMark : mark = '<' ∨ mark = '&' := by
          have stands := Node.escapes_escapeChar.head?_flatMap marked mark (by rw [spelled]; rfl)
          obtain reference | opening := stands
          · exact .inr reference
          · exact .inl (Option.some.inj opening).symm
        rw [spelled] at later
        rw [Node.escapes_escapeChar.flatMap_plain_append plain, spelled]
        refine .head (.event (Scanner.nextEvent_text depth nonempty plain isMark) ?_ rfl) later
        have := List.length_pos_iff.mpr nonempty
        simp
        omega

/-- A tag that has been read opens its element. -/
theorem openPending_eq {around : Surroundings} {elements : List OpenElement}
    {nodes : List XmlNode} {located : Located QName} {written : List WrittenAttribute}
    {tag : StartTag} (stands : Building.surroundings ⟨elements, nodes, none⟩ = around)
    (resolved : resolveTag around located written = .ok tag) :
    Building.openPending ⟨elements, nodes, some (located, written.reverse)⟩ =
      .ok ⟨⟨tag, (around.inside tag).defaultUri, []⟩ :: elements, nodes, none⟩ := by
  have same : Building.surroundings ⟨elements, nodes, some (located, written.reverse)⟩ = around :=
    stands
  simp only [Building.openPending, same, List.reverse_reverse, resolved]
  rfl

/-- Where these surroundings hold, the nodes are read as the others, together with any characters
in front of them. -/
def ContentReads (around : Surroundings) (children others : List Node) : Prop :=
  ∀ (depth : Nat) (pending rest : List Char) (element : OpenElement) (elements : List OpenElement)
    (nodes : List XmlNode), 0 < depth →
    Building.surroundings ⟨element :: elements, nodes, none⟩ = around →
    ∃ made, Node.settled (XmlNode.toNodes made) =
        Node.joinText (String.ofList pending) (Node.settled others) ∧
      Steps
        ⟨.content depth, pending.flatMap Node.escapeChar ++
            ((Node.toXmlAll children).toList ++ '<' :: rest),
          ⟨element :: elements, nodes, none⟩⟩
        ⟨.content depth, '<' :: rest, ⟨element.grown made :: elements, nodes, none⟩⟩

/-- An element is read as one node when its children are read inside it. -/
theorem steps_element {phase : Phase} {depth : Nat} (begins : Scanner.Begins phase depth)
    {around : Surroundings} {name : String} {attributes : List (String × String)}
    {children others : List Node} {tag : StartTag}
    (resolves : Resolves around name attributes tag)
    (inside : ContentReads (around.inside tag) children others)
    (alone : children = [] → others = []) (elements : List OpenElement) (nodes : List XmlNode)
    (stands : Building.surroundings ⟨elements, nodes, none⟩ = around) (rest : List Char) :
    ∃ made, Node.settled (XmlNode.toNodes made) = Node.settled others ∧
      Steps
        ⟨phase, (Node.toXml (.element name attributes children)).toList ++ rest,
          ⟨elements, nodes, none⟩⟩
        ⟨.afterElement (depth + 1), rest,
          Building.add ⟨elements, nodes, none⟩ (.element tag made)⟩ := by
  cases children with
  | nil =>
      obtain rfl := alone rfl
      have whole : (Node.toXml (.element name attributes [])).toList ++ rest =
          '<' :: (name.toList ++
            ((Node.attributesXml attributes).toList ++ '/' :: '>' :: rest)) := by
        simp [Node.toXml]
      have ends : Scanner.EndsName ('/' :: '>' :: rest) := by
        rintro _ ⟨⟩
        decide
      obtain ⟨located, written, resolved, steps⟩ := steps_startTag begins resolves ends
      refine ⟨[], rfl, ?_⟩
      rw [whole]
      refine (steps elements nodes).tail
        (.event (Scanner.nextEvent_endEmptyTag (depth + 1) rest)
          (by simp only [List.length_cons]; omega) ?_)
      rw [Building.step, openPending_eq stands resolved]
      rfl
  | cons child children =>
      have whole : (Node.toXml (.element name attributes (child :: children))).toList ++ rest =
          '<' :: (name.toList ++ ((Node.attributesXml attributes).toList ++
            '>' :: ((Node.toXmlAll (child :: children)).toList ++
              '<' :: '/' :: (name.toList ++ '>' :: rest)))) := by
        simp [Node.toXml, Node.toXmlAll]
      have ends (left : List Char) : Scanner.EndsName ('>' :: left) := by
        rintro _ ⟨⟩
        decide
      obtain ⟨located, written, resolved, steps⟩ := steps_startTag begins resolves (ends _)
      obtain ⟨made, settles, inner⟩ := inside (depth + 1) [] ('/' :: (name.toList ++ '>' :: rest))
        ⟨tag, (around.inside tag).defaultUri, []⟩ elements nodes (Nat.succ_pos depth) rfl
      rw [String.ofList_nil, Node.joinText_empty] at settles
      refine ⟨made, settles, ?_⟩
      rw [whole]
      refine (steps elements nodes).trans (.head (.event (Scanner.nextEvent_endTag (depth + 1) _)
        (by simp) (openPending_eq stands resolved)) (inner.tail ?_))
      rw [← resolves.text_name]
      refine .event (Scanner.nextEvent_closeTag resolves.named (depth + 1) rest)
        (by simp only [List.length_cons, List.length_append]; omega) ?_
      simp only [Building.step, OpenElement.grown, if_true, Building.close, List.append_nil,
        List.reverse_reverse]

theorem contentReads_of_readAllAs {around : Surroundings} {children others : List Node}
    (reads : ReadAllAs around children others) : ContentReads around children others := by
  intro depth pending rest element elements nodes positive stands
  -- A text cannot be read by itself, since the one behind it continues its run: it joins the
  -- pending characters, and an element or the end has them read.
  match children with
  | [] =>
      obtain rfl : others = [] := reads
      obtain ⟨made, settles, steps⟩ := steps_text depth pending rest
      refine ⟨made, by simpa using settles [], ?_⟩
      exact steps element elements nodes
  | .text content :: children =>
      obtain ⟨_, others, rfl, reads, rfl⟩ := reads
      obtain ⟨made, settles, steps⟩ := contentReads_of_readAllAs reads depth
        (pending ++ content.toList) rest element elements nodes positive stands
      refine ⟨made, ?_, ?_⟩
      · rw [settles, Node.settled_text_cons, ← Node.joinText_append, String.ofList_append,
          String.ofList_toList]
      · simpa [Node.toXmlAll, Node.toXml] using steps
  | .element name attributes inner :: children =>
      obtain ⟨_, others, ⟨tag, inside, resolves, readsInside, rfl⟩, reads, rfl⟩ := reads
      have alone : inner = [] → inside = [] := by
        rintro rfl
        exact readsInside
      obtain ⟨tail, opened⟩ : ∃ tail,
          (Node.toXml (.element name attributes inner)).toList = '<' :: tail := by
        cases inner <;> exact ⟨_, by simp [Node.toXml]; rfl⟩
      generalize spelled : (Node.toXmlAll children).toList ++ '<' :: rest = left
      obtain ⟨texts, textsSettle, textSteps⟩ := steps_text depth pending (tail ++ left)
      obtain ⟨made, settles, steps⟩ := steps_element (.child depth) resolves
        (contentReads_of_readAllAs readsInside) alone (element.grown texts :: elements) nodes
        stands left
      obtain ⟨later, laterSettles, laterSteps⟩ := contentReads_of_readAllAs reads depth [] rest
        ((element.grown texts).grown [.element tag made]) elements nodes positive stands
      refine ⟨texts ++ ([.element tag made] ++ later), ?_, ?_⟩
      · rw [String.ofList_nil, Node.joinText_empty] at laterSettles
        rw [XmlNode.toNodes_append, textsSettle, XmlNode.toNodes_append,
          XmlNode.toNodes_singleton_element, List.singleton_append, Node.settled_element_cons,
          Node.settled_element_cons, settles, laterSettles]
      · have content : Phase.afterElement (depth + 1) = .content depth := by
          simp [Phase.afterElement, Nat.pos_iff_ne_zero.mp positive]
        have whole : (Node.toXmlAll (.element name attributes inner :: children)).toList ++
            '<' :: rest = '<' :: (tail ++ left) := by
          rw [Node.toXmlAll, String.toList_append, opened, List.append_assoc, spelled]
          rfl
        rw [opened, content] at steps
        rw [List.flatMap_nil, List.nil_append, spelled] at laterSteps
        rw [whole, OpenElement.grown_append, OpenElement.grown_append]
        exact (textSteps element elements nodes).trans (steps.trans laterSteps)
termination_by sizeOf children

end Reading

/-- A written element is read back, as far as XML text can tell. -/
theorem ofXml_toXml {element : Element} {other : Node}
    (reads : ReadsAs .outermost element.node other) :
    ∃ again, Element.ofXml element.toXml = .ok again ∧
      Node.settled [again.node] = Node.settled [other] := by
  obtain ⟨name, attributes, children⟩ := element
  obtain ⟨tag, others, resolves, inside, rfl⟩ := reads
  have alone : children = [] → others = [] := by
    rintro rfl
    exact inside
  obtain ⟨made, settles, steps⟩ := Reading.steps_element .root resolves
    (Reading.contentReads_of_readAllAs inside) alone [] [] rfl []
  rw [List.append_nil] at steps
  have read : Document.read (Element.toXml ⟨name, attributes, children⟩).toList =
      .ok ⟨[.element tag made]⟩ :=
    Reading.Steps.read_eq steps
  refine ⟨Document.rootElement ⟨[.element tag made]⟩, ?_, ?_⟩
  · rw [Element.ofXml, Document.ofText, read]
    rfl
  · rw [Document.rootElement, XmlNode.toNodes_singleton_element, Node.settled_element_cons,
      ← settles]
    exact Node.settled_element_cons _ _ _ _

end Xml

end DocPreview
