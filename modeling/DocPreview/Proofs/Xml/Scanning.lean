import DocPreview.Proofs.Text.Trim
import DocPreview.Xml.Event
import Mathlib.Data.List.TakeWhile

/-!
# What scanners read

A scanner is described by what it reads off the characters at hand and by when it fails in a way
that lets an alternative be tried. What it notes on the way does not bear on either.
-/

set_option autoImplicit false

namespace DocPreview.Xml

/-! ## Names -/

/-- Whether a text is a name without a colon. -/
def isLocalName (name : String) : Bool :=
  match name.toList with
  | [] => false
  | first :: rest => beginsName first && rest.all continuesName

/-- Both parts of the name can be read. -/
def QName.WellFormed (name : QName) : Prop :=
  (∀ space ∈ name.space, isLocalName space) ∧ isLocalName name.localPart

theorem isLocalName_iff {name : String} :
    isLocalName name ↔ ∃ first rest, name.toList = first :: rest ∧ beginsName first ∧
      ∀ char ∈ rest, continuesName char := by
  unfold isLocalName
  cases name.toList with
  | nil => simp
  | cons first rest =>
      rw [Bool.and_eq_true, List.all_eq_true]
      exact ⟨fun named => ⟨first, rest, rfl, named⟩, fun ⟨_, _, same, named⟩ => by
        cases same
        exact named⟩

theorem continuesName_of_beginsName {char : Char} (begins : beginsName char) :
    continuesName char := by
  simp [continuesName, begins]

/-- No character of a name is a mark of the markup around it. -/
theorem ne_of_continuesName {char mark : Char} (continues : continuesName char)
    (markup : continuesName mark = false) : char ≠ mark := by
  rintro rfl
  simp [continues] at markup

theorem isSpace_of_continuesName {char : Char} (continues : continuesName char) :
    isSpace char = false := by
  simp only [isSpace, Bool.or_eq_false_iff, beq_eq_false_iff_ne]
  exact ⟨⟨⟨ne_of_continuesName continues (by decide), ne_of_continuesName continues (by decide)⟩,
    ne_of_continuesName continues (by decide)⟩, ne_of_continuesName continues (by decide)⟩

theorem QName.WellFormed.exists_first {name : QName} (named : name.WellFormed) :
    ∃ first further, name.text.toList = first :: further ∧ beginsName first := by
  obtain ⟨space, localPart⟩ := name
  cases space with
  | none =>
      obtain ⟨first, further, spelled, begins, _⟩ := isLocalName_iff.mp named.2
      exact ⟨first, further, spelled, begins⟩
  | some space =>
      obtain ⟨first, further, spelled, begins, _⟩ := isLocalName_iff.mp (named.1 space rfl)
      exact ⟨first, further ++ ':' :: localPart.toList, by simp [QName.text, spelled], begins⟩

namespace Input

theorem eq_ofList (input : Input) : input = ofList input.chars := by
  obtain ⟨chars, size, rfl⟩ := input
  rfl

theorem drop_ofList_append (taken rest : List Char) :
    (ofList (taken ++ rest)).drop taken.length = ofList rest := by
  simp [drop, ofList]

end Input

namespace Scanner

section

variable {α β : Type}

/-- The scanner reads the value and leaves the rest of the characters. -/
def Reads (scanner : Scanner α) (chars : List Char) (value : α) (rest : List Char) : Prop :=
  (scanner (.ofList chars)).outcome = .ok (value, .ofList rest)

/-- The scanner fails, and something else may be tried. -/
def Declines (scanner : Scanner α) (chars : List Char) : Prop :=
  ∃ failure, (scanner (.ofList chars)).outcome = .error failure ∧ failure.isFatal = false

/-! ## Combinators -/

theorem reads_pure {value other : α} {chars rest : List Char} :
    (pure value : Scanner α).Reads chars other rest ↔ value = other ∧ chars = rest := by
  simp only [Reads, pure, Except.ok.injEq, Prod.mk.injEq]
  refine and_congr_right fun _ => ⟨fun same => ?_, fun same => same ▸ rfl⟩
  exact congrArg Input.chars same

theorem outcome_bind (first : Scanner α) (next : α → Scanner β) (input : Input) :
    ((first >>= next) input).outcome =
      match (first input).outcome with
      | .error failure => .error failure
      | .ok (value, rest) => (next value rest).outcome := by
  simp only [bind]
  rcases first input with ⟨noted, failure | ⟨value, rest⟩⟩ <;> rfl

theorem reads_bind {first : Scanner α} {next : α → Scanner β} {chars rest : List Char}
    {value : β} :
    (first >>= next).Reads chars value rest ↔
      ∃ middle between, first.Reads chars middle between ∧
        (next middle).Reads between value rest := by
  simp only [Reads, outcome_bind]
  rcases (first (.ofList chars)).outcome with failure | ⟨middle, between⟩
  · simp
  · rw [between.eq_ofList]
    constructor
    · exact fun reads => ⟨middle, between.chars, rfl, reads⟩
    · rintro ⟨other, others, same, reads⟩
      cases same
      exact reads

theorem declines_bind {first : Scanner α} {chars : List Char} (declines : first.Declines chars)
    (next : α → Scanner β) : (first >>= next).Declines chars := by
  obtain ⟨failure, failed, mild⟩ := declines
  exact ⟨failure, by rw [outcome_bind, failed], mild⟩

theorem declines_bind_of_reads {first : Scanner α} {next : α → Scanner β}
    {chars between : List Char} {middle : α} (reads : first.Reads chars middle between)
    (declines : (next middle).Declines between) : (first >>= next).Declines chars := by
  obtain ⟨failure, failed, mild⟩ := declines
  exact ⟨failure, by rw [outcome_bind, reads]; exact failed, mild⟩

theorem outcome_either (first second : Scanner α) (input : Input) :
    (either first second input).outcome =
      match (first input).outcome with
      | .ok result => .ok result
      | .error failure =>
        if failure.isFatal then .error failure else (second input).outcome := by
  unfold either
  rcases first input with ⟨noted, failure | result⟩
  · by_cases fatal : failure.isFatal <;> simp [fatal]
  · rfl

theorem reads_either {first second : Scanner α} {chars rest : List Char} {value : α} :
    (either first second).Reads chars value rest ↔
      first.Reads chars value rest ∨ first.Declines chars ∧ second.Reads chars value rest := by
  simp only [Reads, Declines, outcome_either]
  rcases (first (.ofList chars)).outcome with failure | result
  · by_cases fatal : failure.isFatal <;> simp [fatal]
  · simp

theorem declines_either {first second : Scanner α} {chars : List Char}
    (firstDeclines : first.Declines chars) (secondDeclines : second.Declines chars) :
    (either first second).Declines chars := by
  obtain ⟨failure, failed, mild⟩ := firstDeclines
  obtain ⟨other, otherFailed, otherMild⟩ := secondDeclines
  exact ⟨other, by simp [outcome_either, failed, mild, otherFailed], otherMild⟩

theorem reads_optional {scanner : Scanner α} {chars rest : List Char} {value : Option α} :
    (optional scanner).Reads chars value rest ↔
      (∃ read, some read = value ∧ scanner.Reads chars read rest) ∨
      none = value ∧ scanner.Declines chars ∧ chars = rest := by
  unfold Reads Declines optional
  rcases scanner (.ofList chars) with ⟨noted, failure | ⟨read, left⟩⟩
  · by_cases fatal : failure.isFatal
    · simp [fatal]
    · have inputs : Input.ofList chars = .ofList rest ↔ chars = rest :=
        ⟨congrArg Input.chars, congrArg Input.ofList⟩
      simp [fatal, inputs]
  · constructor
    · intro same
      cases same
      exact .inl ⟨read, rfl, rfl⟩
    · rintro (⟨other, rfl, same⟩ | ⟨_, ⟨failure, failed, _⟩, _⟩)
      · cases same
        rfl
      · cases failed

theorem reads_located {scanner : Scanner α} {chars rest : List Char} {read : Located α} :
    (located scanner).Reads chars read rest ↔
      read.remaining = chars.length ∧ scanner.Reads chars read.value rest := by
  have here : ∀ {count : Nat} {between : List Char}, position.Reads chars count between ↔
      chars.length = count ∧ chars = between := by
    intro count between
    simp only [Reads, position, Except.ok.injEq, Prod.mk.injEq]
    exact and_congr_right fun _ => ⟨congrArg Input.chars, congrArg Input.ofList⟩
  obtain ⟨value, remaining⟩ := read
  simp only [located, reads_bind, reads_pure, here]
  constructor
  · rintro ⟨_, _, ⟨rfl, rfl⟩, _, _, reads, same, rfl⟩
    cases same
    exact ⟨rfl, reads⟩
  · rintro ⟨rfl, reads⟩
    exact ⟨_, _, ⟨rfl, rfl⟩, _, _, reads, rfl, rfl⟩

theorem reads_literalOr (problem : Problem) (literal : String) (rest : List Char) :
    (literalOr problem literal).Reads (literal.toList ++ rest) () rest := by
  have begins : literal.toList.isPrefixOf (literal.toList ++ rest) := by simp
  simp only [Reads, literalOr, take]
  rw [show (Input.ofList (literal.toList ++ rest)).chars = literal.toList ++ rest from rfl,
    if_pos begins, ← String.length_toList, Input.drop_ofList_append]

theorem declines_literalOr {problem : Problem} {literal : String} {chars : List Char}
    (mild : problem.isFatal = false) (other : literal.toList.isPrefixOf chars = false) :
    (literalOr problem literal).Declines chars := by
  refine ⟨⟨chars.length, [problem]⟩, ?_, ?_⟩
  · simp [literalOr, Input.ofList, other, fail]
  · simp [Failure.isFatal, mild]

theorem declines_literalOr_of_head {problem : Problem} {literal : String} {mark : Char}
    {chars : List Char} (mild : problem.isFatal = false)
    (opens : literal.toList.head? = some mark) (other : chars.head? ≠ some mark) :
    (literalOr problem literal).Declines chars := by
  refine declines_literalOr mild ?_
  obtain ⟨further, spelled⟩ := List.head?_eq_some_iff.mp opens
  cases chars with
  | nil => simp [spelled]
  | cons char rest =>
      have different : mark ≠ char := fun same => other (by simp [same])
      simp [spelled, List.isPrefixOf, different]

/-! ## What holds of all that is read -/

/-- Whatever the scanner reads has the property. -/
def Yields (scanner : Scanner α) (holds : α → Prop) : Prop :=
  ∀ ⦃chars value rest⦄, scanner.Reads chars value rest → holds value

theorem yields_pure {holds : α → Prop} {value : α} (held : holds value) :
    (pure value : Scanner α).Yields holds := by
  intro chars other rest reads
  obtain ⟨rfl, _⟩ := reads_pure.mp reads
  exact held

theorem yields_bind {first : Scanner α} {next : α → Scanner β} {read : α → Prop} {holds : β → Prop}
    (yields : first.Yields read) (later : ∀ middle, read middle → (next middle).Yields holds) :
    (first >>= next).Yields holds := by
  intro chars value rest reads
  obtain ⟨middle, between, readsFirst, readsNext⟩ := reads_bind.mp reads
  exact later middle (yields readsFirst) readsNext

theorem yields_then {first : Scanner α} {next : α → Scanner β} {holds : β → Prop}
    (later : ∀ middle, (next middle).Yields holds) : (first >>= next).Yields holds :=
  yields_bind (fun _ _ _ _ => trivial) fun middle _ => later middle

theorem yields_ite {condition : Prop} [Decidable condition] {first second : Scanner α}
    {holds : α → Prop} (yields : first.Yields holds) (otherwise : second.Yields holds) :
    (if condition then first else second).Yields holds := by
  split
  · exact yields
  · exact otherwise

theorem yields_firstOf {holds : α → Prop} {first : Scanner α} {others : List (Scanner α)}
    (yields : first.Yields holds) (later : ∀ scanner ∈ others, scanner.Yields holds) :
    (firstOf first others).Yields holds := by
  induction others generalizing first with
  | nil => exact yields
  | cons second others ih =>
      obtain ⟨secondYields, othersYield⟩ := List.forall_mem_cons.mp later
      intro chars value rest reads
      obtain reads | ⟨_, reads⟩ := reads_either.mp reads
      · exact yields reads
      · exact ih secondYields othersYield reads

/-! ## Runs of characters -/

theorem reads_run {belongs : Char → Bool} {taken rest : List Char}
    (all : ∀ char ∈ taken, belongs char) (stops : ∀ char ∈ rest.head?, belongs char = false) :
    (run belongs).Reads (taken ++ rest) taken rest := by
  have taken' := Text.takeWhile_append_of_stops all stops
  simp only [Reads, run, take]
  rw [show (Input.ofList (taken ++ rest)).chars = taken ++ rest from rfl, taken',
    Input.drop_ofList_append]

theorem reads_runOf {problem : Problem} {belongs : Char → Bool} {taken rest : List Char}
    (nonempty : taken ≠ []) (all : ∀ char ∈ taken, belongs char)
    (stops : ∀ char ∈ rest.head?, belongs char = false) :
    (runOf problem belongs).Reads (taken ++ rest) taken rest := by
  have taken' := Text.takeWhile_append_of_stops all stops
  simp only [Reads, runOf, take]
  rw [show (Input.ofList (taken ++ rest)).chars = taken ++ rest from rfl, taken',
    Input.drop_ofList_append]
  simp [nonempty]

theorem declines_runOf {problem : Problem} {belongs : Char → Bool} {chars : List Char}
    (mild : problem.isFatal = false) (stops : ∀ char ∈ chars.head?, belongs char = false) :
    (runOf problem belongs).Declines chars := by
  have nothing : chars.takeWhile belongs = [] := by
    simpa using Text.takeWhile_append_of_stops (List.forall_mem_nil _) stops
  refine ⟨⟨chars.length, [problem]⟩, ?_, ?_⟩
  · simp [runOf, Input.ofList, nothing, fail]
  · simp [Failure.isFatal, mild]

/-! ## Names -/

theorem reads_nameOf {problem : Problem} {begins continues : Char → Bool} {name : String}
    {first : Char} {further rest : List Char} (spelled : name.toList = first :: further)
    (first_begins : begins first) (all : ∀ char ∈ further, continues char)
    (stops : ∀ char ∈ rest.head?, continues char = false) :
    (nameOf problem begins continues).Reads (name.toList ++ rest) name rest := by
  have taken := Text.takeWhile_append_of_stops all stops
  have whole : String.ofList (first :: further) = name := by
    rw [← spelled, String.ofList_toList]
  simp only [Reads, nameOf, spelled, List.cons_append, Input.ofList, first_begins, taken, whole,
    if_true, take]
  exact congrArg (fun input => Except.ok (name, input))
    (Input.drop_ofList_append (first :: further) rest)

theorem reads_localName {problem : Problem} {name : String} {rest : List Char}
    (named : isLocalName name) (stops : ∀ char ∈ rest.head?, continuesName char = false) :
    (localName problem).Reads (name.toList ++ rest) name rest := by
  obtain ⟨first, further, spelled, begins, continues⟩ := isLocalName_iff.mp named
  exact reads_nameOf spelled begins continues stops

theorem isLocalName_of_reads {problem : Problem} {chars rest : List Char} {name : String}
    (reads : (localName problem).Reads chars name rest) : isLocalName name := by
  cases chars with
  | nil => simp [Reads, localName, nameOf, Input.ofList, fail] at reads
  | cons first further =>
      by_cases begins : beginsName first
      · simp only [Reads, localName, nameOf, Input.ofList, begins, if_true, take,
          Except.ok.injEq, Prod.mk.injEq] at reads
        rw [← reads.1]
        refine isLocalName_iff.mpr ⟨first, _, String.toList_ofList, begins, ?_⟩
        intro char member
        exact List.mem_takeWhile_imp member
      · simp [Reads, localName, nameOf, Input.ofList, begins, fail] at reads

/-- What may stand behind a name: neither more of it nor a colon. -/
def EndsName (rest : List Char) : Prop :=
  ∀ char ∈ rest.head?, continuesName char = false ∧ char ≠ ':'

theorem reads_qualifiedName {problem : Problem} {name : QName} (named : name.WellFormed)
    {rest : List Char} (ends : EndsName rest) :
    (qualifiedName problem).Reads (name.text.toList ++ rest) name rest := by
  obtain ⟨space, localPart⟩ := name
  obtain ⟨spaceNamed, localNamed⟩ := named
  have stops : ∀ char ∈ rest.head?, continuesName char = false :=
    fun char stands => (ends char stands).1
  unfold qualifiedName
  simp only [reads_bind, reads_optional]
  cases space with
  | none =>
      refine ⟨localPart, rest, reads_localName localNamed stops, none, rest,
        .inr ⟨rfl, declines_bind (declines_literalOr_of_head rfl rfl ?_) _, rfl⟩,
        reads_pure.mpr ⟨rfl, rfl⟩⟩
      exact fun colon => (ends ':' colon).2 rfl
  | some space =>
      have spelled : (QName.mk (some space) localPart).text.toList ++ rest =
          space.toList ++ (':' :: (localPart.toList ++ rest)) := by
        simp [QName.text]
      rw [spelled]
      refine ⟨space, _, reads_localName (spaceNamed space rfl) ?_, some localPart, rest,
        .inl ⟨localPart, rfl, ?_⟩, ?_⟩
      · rintro _ ⟨⟩
        decide
      · exact ⟨(), _, reads_literalOr _ ":" _, reads_localName localNamed stops⟩
      · exact reads_pure.mpr ⟨rfl, rfl⟩

theorem wellFormed_of_reads {problem : Problem} {chars rest : List Char} {name : QName}
    (reads : (qualifiedName problem).Reads chars name rest) : name.WellFormed := by
  unfold qualifiedName at reads
  simp only [reads_bind, reads_optional] at reads
  obtain ⟨first, between, readsFirst, second, _, secondReads, same⟩ := reads
  have firstNamed := isLocalName_of_reads readsFirst
  obtain ⟨read, rfl, _, _, _, readsSecond⟩ | ⟨rfl, _, _⟩ := secondReads
  · obtain ⟨rfl, _⟩ := reads_pure.mp same
    exact ⟨by simpa using firstNamed, isLocalName_of_reads readsSecond⟩
  · obtain ⟨rfl, _⟩ := reads_pure.mp same
    exact ⟨by simp, firstNamed⟩

end

end Scanner

end DocPreview.Xml
