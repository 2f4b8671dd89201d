import DocPreview.Proofs.Xml.Steps

/-!
# The pieces of written markup

What is scanned where a piece of markup as it is written stands: a tag, an attribute, a run of
characters without marks, or a reference to a mark. Before a piece is read, every alternative
that is tried first has to decline.
-/

set_option autoImplicit false

namespace DocPreview

namespace Node

/-- Whether a character stands in XML text as a reference. -/
def isMark (char : Char) : Bool :=
  char == '&' || char == '<' || char == '>'

/-- Whether a character stands in a quoted value as a reference. -/
def isQuotedMark (char : Char) : Bool :=
  char == '"' || isMark char

end Node

namespace Xml

namespace Scanner

variable {α : Type}

theorem reads_andThen (phase : Phase) {scanner : Scanner Event} {chars rest : List Char}
    {event : Event} (reads : scanner.Reads chars event rest) :
    (andThen phase scanner).Reads chars (event, phase) rest :=
  reads_bind.mpr ⟨event, rest, reads, reads_pure.mpr ⟨rfl, rfl⟩⟩

theorem declines_andThen {phase : Phase} {scanner : Scanner Event} {chars : List Char}
    (declines : scanner.Declines chars) : (andThen phase scanner).Declines chars :=
  declines_bind declines _

theorem reads_firstOf_head {first : Scanner α} {others : List (Scanner α)} {chars rest : List Char}
    {value : α} (reads : first.Reads chars value rest) :
    (firstOf first others).Reads chars value rest := by
  cases others with
  | nil => exact reads
  | cons => exact reads_either.mpr (.inl reads)

theorem reads_firstOf_tail {first second : Scanner α} {others : List (Scanner α)}
    {chars rest : List Char} {value : α} (declines : first.Declines chars)
    (reads : (firstOf second others).Reads chars value rest) :
    (firstOf first (second :: others)).Reads chars value rest :=
  reads_either.mpr (.inr ⟨declines, reads⟩)

/-! ## Tags -/

theorem reads_elementMark {char : Char} {rest : List Char} (begins : beginsName char) :
    elementMark.Reads ('<' :: char :: rest) () (char :: rest) := by
  have continues := continuesName_of_beginsName begins
  have question : char ≠ '?' := ne_of_continuesName continues (by decide)
  have exclamation : char ≠ '!' := ne_of_continuesName continues (by decide)
  have slash : char ≠ '/' := ne_of_continuesName continues (by decide)
  simp [Reads, elementMark, Input.ofList, question, exclamation, slash, take, Input.drop]

theorem declines_openTag {chars : List Char} (other : chars.head? ≠ some '<') :
    openTag.Declines chars := by
  refine declines_bind ⟨⟨chars.length, [.expectedElement]⟩, ?_, rfl⟩ _
  cases chars with
  | nil => rfl
  | cons char rest =>
      have different : char ≠ '<' := by simpa using other
      simp [elementMark, Input.ofList, different, fail]

theorem declines_openTag_slash (rest : List Char) : openTag.Declines ('<' :: '/' :: rest) :=
  declines_bind ⟨_, rfl, rfl⟩ _

section

variable {name : QName} (named : name.WellFormed) {rest : List Char} (ends : EndsName rest)

include named ends

theorem reads_locatedName (problem : Problem) :
    (located (qualifiedName problem)).Reads (name.text.toList ++ rest)
      ⟨name, (name.text.toList ++ rest).length⟩ rest :=
  reads_located.mpr ⟨rfl, reads_qualifiedName named ends⟩

theorem reads_openTag :
    openTag.Reads ('<' :: (name.text.toList ++ rest))
      (.openTag ⟨name, (name.text.toList ++ rest).length⟩) rest := by
  obtain ⟨first, further, spelled, begins⟩ := named.exists_first
  refine reads_bind.mpr ⟨(), name.text.toList ++ rest, ?_, reads_bind.mpr
    ⟨_, _, reads_locatedName named ends _, reads_pure.mpr ⟨rfl, rfl⟩⟩⟩
  rw [spelled]
  exact reads_elementMark begins

end

theorem reads_space? {chars : List Char} (shown : ∀ char ∈ chars.head?, isSpace char = false) :
    space?.Reads chars () chars :=
  reads_bind.mpr ⟨[], chars, reads_run (List.forall_mem_nil _) shown, reads_pure.mpr ⟨rfl, rfl⟩⟩

theorem reads_space {chars : List Char} (shown : ∀ char ∈ chars.head?, isSpace char = false) :
    space.Reads (' ' :: chars) () chars :=
  reads_bind.mpr ⟨[' '], chars, reads_runOf (List.cons_ne_nil ' ' [])
    (List.forall_mem_singleton.mpr (by decide)) shown, reads_pure.mpr ⟨rfl, rfl⟩⟩

theorem reads_closeTag {name : QName} (named : name.WellFormed) (rest : List Char) :
    closeTag.Reads ('<' :: '/' :: (name.text.toList ++ '>' :: rest))
      (.closeTag ⟨name, (name.text.toList ++ '>' :: rest).length⟩) rest := by
  have ends : EndsName ('>' :: rest) := by
    rintro _ ⟨⟩
    decide
  have shown : ∀ char ∈ ('>' :: rest).head?, isSpace char = false := by
    rintro _ ⟨⟩
    decide
  exact reads_bind.mpr ⟨(), _, reads_literalOr _ "</" _, reads_bind.mpr
    ⟨_, _, reads_locatedName named ends _, reads_bind.mpr ⟨(), _, reads_space? shown,
      reads_bind.mpr ⟨(), _, reads_literalOr _ ">" _, reads_pure.mpr ⟨rfl, rfl⟩⟩⟩⟩⟩

theorem declines_closeTag {chars : List Char} (other : chars.head? ≠ some '<') :
    closeTag.Declines chars :=
  declines_bind (declines_literalOr_of_head rfl rfl other) _

theorem reads_endTag (rest : List Char) : endTag.Reads ('>' :: rest) .endTag rest := by
  have shown : ∀ char ∈ ('>' :: rest).head?, isSpace char = false := by
    rintro _ ⟨⟩
    decide
  exact reads_bind.mpr ⟨(), _, reads_space? shown, reads_bind.mpr ⟨(), _, reads_literalOr _ ">" _,
    reads_pure.mpr ⟨rfl, rfl⟩⟩⟩

theorem declines_endTag (rest : List Char) : endTag.Declines ('/' :: rest) := by
  have shown : ∀ char ∈ ('/' :: rest).head?, isSpace char = false := by
    rintro _ ⟨⟩
    decide
  exact declines_bind_of_reads (reads_space? shown)
    (declines_bind (declines_literalOr rfl (by simp [List.isPrefixOf])) _)

theorem reads_endEmptyTag (rest : List Char) :
    endEmptyTag.Reads ('/' :: '>' :: rest) .endEmptyTag rest := by
  have shown : ∀ char ∈ ('/' :: '>' :: rest).head?, isSpace char = false := by
    rintro _ ⟨⟩
    decide
  exact reads_bind.mpr ⟨(), _, reads_space? shown, reads_bind.mpr ⟨(), _, reads_literalOr _ "/>" _,
    reads_pure.mpr ⟨rfl, rfl⟩⟩⟩

/-! ## Attributes -/

theorem reads_openAttribute {name : QName} (named : name.WellFormed) (depth : Nat)
    (rest : List Char) :
    (openAttribute depth).Reads (' ' :: (name.text.toList ++ '=' :: '"' :: rest))
      (.openAttribute ⟨name, (name.text.toList ++ '=' :: '"' :: rest).length⟩, .value depth '"')
      rest := by
  have ends : EndsName ('=' :: '"' :: rest) := by
    rintro _ ⟨⟩
    decide
  have shown : ∀ char ∈ ('=' :: '"' :: rest).head?, isSpace char = false := by
    rintro _ ⟨⟩
    decide
  have shown' : ∀ char ∈ ('"' :: rest).head?, isSpace char = false := by
    rintro _ ⟨⟩
    decide
  obtain ⟨first, further, spelled, begins⟩ := named.exists_first
  have blank : space.Reads (' ' :: (name.text.toList ++ '=' :: '"' :: rest)) ()
      (name.text.toList ++ '=' :: '"' :: rest) := by
    refine reads_space ?_
    rw [spelled]
    rintro _ ⟨⟩
    exact isSpace_of_continuesName (continuesName_of_beginsName begins)
  have equal : equals.Reads ('=' :: '"' :: rest) () ('"' :: rest) :=
    reads_bind.mpr ⟨(), _, reads_space? shown, reads_bind.mpr ⟨(), _, reads_literalOr _ "=" _,
      reads_space? shown'⟩⟩
  refine reads_bind.mpr ⟨(), _, blank, reads_bind.mpr ⟨_, _, reads_locatedName named ends _,
    reads_bind.mpr ⟨(), _, equal, reads_bind.mpr ⟨'"', rest, ?_, reads_pure.mpr ⟨rfl, rfl⟩⟩⟩⟩⟩
  exact reads_either.mpr (.inl (reads_bind.mpr ⟨(), _, reads_literalOr _ "\"" _,
    reads_pure.mpr ⟨rfl, rfl⟩⟩))

theorem declines_openAttribute {depth : Nat} {chars : List Char}
    (shown : ∀ char ∈ chars.head?, isSpace char = false) :
    (openAttribute depth).Declines chars :=
  declines_bind (declines_bind (declines_runOf rfl shown) _) _

theorem reads_closeAttribute (rest : List Char) :
    (closeAttribute '"').Reads ('"' :: rest) .closeAttribute rest :=
  reads_bind.mpr ⟨(), _, reads_literalOr _ "\"" _, reads_pure.mpr ⟨rfl, rfl⟩⟩

/-! ## Characters and references -/

theorem reads_reference {word : String} (named : isLocalName word) (rest : List Char) :
    reference.Reads ('&' :: (word.toList ++ ';' :: rest))
      ⟨.named, ⟨word, (word.toList ++ ';' :: rest).length⟩⟩ rest := by
  have reads (problem : Problem) :
      (name problem).Reads (word.toList ++ ';' :: rest) word (';' :: rest) := by
    obtain ⟨first, further, spelled, begins, continues⟩ := isLocalName_iff.mp named
    refine reads_nameOf spelled (by simp [begins]) (fun char member => ?_) ?_
    · simp [continues char member]
    · rintro _ ⟨⟩
      decide
  exact reads_firstOf_head (reads_bind.mpr ⟨(), _, reads_literalOr _ "&" _, reads_bind.mpr
    ⟨_, _, reads_located.mpr ⟨rfl, reads _⟩, reads_bind.mpr
      ⟨(), _, reads_literalOr _ ";" _, reads_pure.mpr ⟨rfl, rfl⟩⟩⟩⟩)

theorem declines_reference {chars : List Char} (other : chars.head? ≠ some '&') :
    reference.Declines chars :=
  have declines (kind : ReferenceKind) (problem : Problem) (mild : problem.isFatal = false)
      (opening : String) (opens : opening.toList.head? = some '&') (value : Scanner String) :
      (referenceOf kind problem opening value).Declines chars :=
    declines_bind (declines_literalOr_of_head mild opens other) _
  declines_either (declines _ _ rfl _ rfl _)
    (declines_either (declines _ _ rfl _ rfl _) (declines _ _ rfl _ rfl _))

theorem endsText_cons {char : Char} {chars : List Char} (ends : endsText (char :: chars)) :
    char = '<' ∨ char = '&' ∨ ∃ rest, chars = ']' :: '>' :: rest := by
  unfold endsText at ends
  split at ends
  · rename_i same
    exact .inl (List.cons.inj same).1
  · rename_i same
    exact .inr (.inl (List.cons.inj same).1)
  · rename_i same
    exact .inr (.inr ⟨_, (List.cons.inj same).2⟩)
  · simp at ends

/-- A run of characters without marks goes on to the mark behind it. -/
theorem textBefore_append {taken rest : List Char} {mark : Char}
    (plain : ∀ char ∈ taken, Node.isMark char = false) (marked : mark = '<' ∨ mark = '&') :
    textBefore (taken ++ mark :: rest) = taken := by
  induction taken with
  | nil => rcases marked with rfl | rfl <;> rfl
  | cons char taken ih =>
      obtain ⟨charPlain, plain⟩ := List.forall_mem_cons.mp plain
      have goesOn : ¬ endsText (char :: (taken ++ mark :: rest)) := by
        intro ends
        obtain rfl | rfl | ⟨_, closed⟩ := endsText_cons ends
        · exact absurd charPlain (by decide)
        · exact absurd charPlain (by decide)
        · -- A section cannot end here, since a bracket is not followed by a mark of its own.
          match taken, plain, closed with
          | [], _, closed => rcases marked with rfl | rfl <;> simp at closed
          | [_], _, closed => rcases marked with rfl | rfl <;> simp at closed
          | _ :: bracket :: _, plain, closed =>
              have other := plain bracket (by simp)
              simp only [List.cons_append, List.cons.injEq] at closed
              simp [closed.2.1, Node.isMark] at other
      rw [List.cons_append, textBefore, if_neg goesOn, ih plain]

theorem reads_characterData {taken rest : List Char} {mark : Char} (nonempty : taken ≠ [])
    (plain : ∀ char ∈ taken, Node.isMark char = false) (marked : mark = '<' ∨ mark = '&') :
    characterData.Reads (taken ++ mark :: rest) (.text (String.ofList taken)) (mark :: rest) := by
  have before : textBefore (taken ++ mark :: rest) = taken := textBefore_append plain marked
  have goesOn : ¬ endsText (taken ++ mark :: rest) := by
    intro ends
    cases taken with
    | nil => exact nonempty rfl
    | cons char taken =>
        rw [List.cons_append] at ends before
        rw [textBefore, if_pos ends] at before
        cases before
  simp only [Reads, characterData, take]
  rw [show (Input.ofList (taken ++ mark :: rest)).chars = taken ++ mark :: rest from rfl,
    if_neg goesOn, before, Input.drop_ofList_append]

theorem declines_characterData (rest : List Char) : characterData.Declines ('&' :: rest) :=
  ⟨_, rfl, rfl⟩

theorem reads_attributeLiteral {problem : Problem} {taken rest : List Char} (nonempty : taken ≠ [])
    (plain : ∀ char ∈ taken, Node.isQuotedMark char = false)
    (marked : ∀ char ∈ rest.head?, char = '&' ∨ char = '"') :
    (attributeLiteral problem '"').Reads (taken ++ rest) (String.ofList taken) rest := by
  refine reads_bind.mpr ⟨taken, rest, reads_runOf nonempty ?_ ?_, reads_pure.mpr ⟨rfl, rfl⟩⟩
  · intro char member
    have other := plain char member
    simp only [Node.isQuotedMark, Node.isMark, Bool.or_eq_false_iff, beq_eq_false_iff_ne] at other
    simp [other]
  · intro char stands
    rcases marked char stands with rfl | rfl <;> rfl

theorem declines_attributeLiteral {problem : Problem} {chars : List Char}
    (mild : problem.isFatal = false) (marked : ∀ char ∈ chars.head?, char = '&' ∨ char = '"') :
    (attributeLiteral problem '"').Declines chars := by
  refine declines_bind (declines_runOf mild fun char stands => ?_) _
  rcases marked char stands with rfl | rfl <;> rfl

/-! ## What comes next -/

/-- An element may begin, inside so many others. -/
inductive Begins : Phase → Nat → Prop
  | root : Begins .beginning 0
  | child (depth : Nat) : Begins (.content depth) depth

section

variable {name : QName} (named : name.WellFormed)

include named

theorem nextEvent_openTag {phase : Phase} {depth : Nat} (begins : Begins phase depth)
    {rest : List Char} (ends : EndsName rest) :
    (nextEvent phase).Reads ('<' :: (name.text.toList ++ rest))
      (.openTag ⟨name, (name.text.toList ++ rest).length⟩, .tag (depth + 1)) rest := by
  have reads (next : Phase) := reads_andThen next (reads_openTag named ends)
  cases begins with
  | child => exact reads_firstOf_head (reads _)
  | root =>
      refine reads_firstOf_tail (declines_andThen (declines_bind (declines_literalOr rfl ?_) _))
        (reads_firstOf_head (reads _))
      obtain ⟨first, further, spelled, begins⟩ := named.exists_first
      have different : '?' ≠ first :=
        (ne_of_continuesName (continuesName_of_beginsName begins) (by decide)).symm
      simp [spelled, List.isPrefixOf, different]

theorem nextEvent_closeTag (depth : Nat) (rest : List Char) :
    (nextEvent (.content depth)).Reads ('<' :: '/' :: (name.text.toList ++ '>' :: rest))
      (.closeTag ⟨name, (name.text.toList ++ '>' :: rest).length⟩, .afterElement depth) rest :=
  reads_firstOf_tail (declines_andThen (declines_openTag_slash _))
    (reads_firstOf_head (reads_andThen _ (reads_closeTag named rest)))

theorem nextEvent_openAttribute (depth : Nat) (rest : List Char) :
    (nextEvent (.tag depth)).Reads (' ' :: (name.text.toList ++ '=' :: '"' :: rest))
      (.openAttribute ⟨name, (name.text.toList ++ '=' :: '"' :: rest).length⟩, .value depth '"')
      rest :=
  reads_firstOf_head (reads_openAttribute named depth rest)

end

theorem nextEvent_endTag (depth : Nat) (rest : List Char) :
    (nextEvent (.tag depth)).Reads ('>' :: rest) (.endTag, .content depth) rest := by
  refine reads_firstOf_tail (declines_openAttribute ?_)
    (reads_firstOf_head (reads_andThen _ (reads_endTag rest)))
  rintro _ ⟨⟩
  decide

theorem nextEvent_endEmptyTag (depth : Nat) (rest : List Char) :
    (nextEvent (.tag depth)).Reads ('/' :: '>' :: rest) (.endEmptyTag, .afterElement depth)
      rest := by
  refine reads_firstOf_tail (declines_openAttribute ?_)
    (reads_firstOf_tail (declines_andThen (declines_endTag _))
      (reads_firstOf_head (reads_andThen _ (reads_endEmptyTag rest))))
  rintro _ ⟨⟩
  decide

theorem nextEvent_text (depth : Nat) {taken rest : List Char} {mark : Char} (nonempty : taken ≠ [])
    (plain : ∀ char ∈ taken, Node.isMark char = false) (marked : mark = '<' ∨ mark = '&') :
    (nextEvent (.content depth)).Reads (taken ++ mark :: rest)
      (.text (String.ofList taken), .content depth) (mark :: rest) := by
  have head : (taken ++ mark :: rest).head? ≠ some '<' := by
    obtain ⟨first, further, rfl⟩ := List.exists_cons_of_ne_nil nonempty
    rintro ⟨⟩
    exact absurd (plain '<' List.mem_cons_self) (by decide)
  exact reads_firstOf_tail (declines_andThen (declines_openTag head))
    (reads_firstOf_tail (declines_andThen (declines_closeTag head))
      (reads_firstOf_head (reads_andThen _ (reads_characterData nonempty plain marked))))

theorem nextEvent_reference (depth : Nat) {word : String} (named : isLocalName word)
    (rest : List Char) :
    (nextEvent (.content depth)).Reads ('&' :: (word.toList ++ ';' :: rest))
      (.reference ⟨.named, ⟨word, (word.toList ++ ';' :: rest).length⟩⟩, .content depth) rest := by
  have head : ('&' :: (word.toList ++ ';' :: rest)).head? ≠ some '<' := by simp
  exact reads_firstOf_tail (declines_andThen (declines_openTag head))
    (reads_firstOf_tail (declines_andThen (declines_closeTag head))
      (reads_firstOf_tail (declines_andThen (declines_characterData _))
        (reads_firstOf_tail (declines_andThen
          (declines_bind (declines_literalOr_of_head rfl rfl head) _))
            (reads_firstOf_head (reads_andThen _ (reads_bind.mpr
              ⟨_, _, reads_reference named rest, reads_pure.mpr ⟨rfl, rfl⟩⟩))))))

theorem nextEvent_attributeText (depth : Nat) {taken rest : List Char} (nonempty : taken ≠ [])
    (plain : ∀ char ∈ taken, Node.isQuotedMark char = false)
    (marked : ∀ char ∈ rest.head?, char = '&' ∨ char = '"') :
    (nextEvent (.value depth '"')).Reads (taken ++ rest)
      (.attributeText (String.ofList taken), .value depth '"') rest :=
  reads_firstOf_head (reads_andThen _ (reads_bind.mpr
    ⟨_, _, reads_attributeLiteral nonempty plain marked, reads_pure.mpr ⟨rfl, rfl⟩⟩))

theorem nextEvent_attributeReference (depth : Nat) {word : String} (named : isLocalName word)
    (rest : List Char) :
    (nextEvent (.value depth '"')).Reads ('&' :: (word.toList ++ ';' :: rest))
      (.attributeReference ⟨.named, ⟨word, (word.toList ++ ';' :: rest).length⟩⟩,
        .value depth '"') rest := by
  refine reads_firstOf_tail (declines_andThen (declines_bind
    (declines_attributeLiteral rfl ?_) _)) (reads_firstOf_head (reads_andThen _ (reads_bind.mpr
      ⟨_, _, reads_reference named rest, reads_pure.mpr ⟨rfl, rfl⟩⟩)))
  rintro _ ⟨⟩
  exact .inl rfl

theorem nextEvent_closeAttribute (depth : Nat) (rest : List Char) :
    (nextEvent (.value depth '"')).Reads ('"' :: rest) (.closeAttribute, .tag depth) rest := by
  refine reads_firstOf_tail (declines_andThen (declines_bind
    (declines_attributeLiteral rfl ?_) _)) (reads_firstOf_tail (declines_andThen
      (declines_bind (declines_reference ?_) _)) (reads_firstOf_head (reads_andThen _
        (reads_closeAttribute rest))))
  · rintro _ ⟨⟩
    exact .inr rfl
  · simp

end Scanner

end Xml

end DocPreview
