import DocPreview.Proofs.Xml.Scanning
import DocPreview.Xml.Document
import Mathlib.Logic.Relation

/-!
# Reading an XML text step by step

One step scans an event and builds with it. A text is read by such steps to the point where no
more is to come, so what every step keeps holds of every document.
-/

set_option autoImplicit false

namespace DocPreview.Xml

/-! ## The names of events -/

/-- The names of elements and attributes can be read. -/
def Event.WellNamed : Event → Prop
  | .openTag name => name.value.WellFormed
  | .openAttribute name => name.value.WellFormed
  | _ => True

namespace Scanner

theorem yields_qualifiedName (problem : Problem) :
    (located (qualifiedName problem)).Yields fun name => name.value.WellFormed :=
  fun _ _ _ reads => wellFormed_of_reads (reads_located.mp reads).2

theorem yields_andThen {phase : Phase} {scanner : Scanner Event}
    (yields : scanner.Yields Event.WellNamed) :
    (andThen phase scanner).Yields fun result => result.1.WellNamed :=
  yields_bind yields fun _ named => yields_pure named

theorem yields_openTag : openTag.Yields Event.WellNamed :=
  yields_then fun _ => yields_bind (yields_qualifiedName _) fun _ named => yields_pure named

theorem yields_openAttribute (depth : Nat) :
    (openAttribute depth).Yields fun result => result.1.WellNamed :=
  yields_then fun _ => yields_bind (yields_qualifiedName _) fun _ named =>
    yields_then fun _ => yields_then fun _ => yields_pure named

theorem yields_comment : comment.Yields Event.WellNamed :=
  yields_then fun _ => yields_then fun _ => yields_then fun _ => yields_pure trivial

theorem yields_instruction : instruction.Yields Event.WellNamed := by
  refine yields_then fun _ => yields_then fun target => yields_then fun _ => yields_then fun _ => ?_
  refine yields_ite ?_ (yields_pure trivial)
  intro chars event rest reads
  cases reads

theorem yields_blank : blank.Yields Event.WellNamed :=
  yields_then fun _ => yields_pure trivial

theorem yields_characterData : characterData.Yields Event.WellNamed := by
  intro chars event rest reads
  unfold Reads characterData at reads
  split at reads
  · cases reads
  · simp only [take, Except.ok.injEq, Prod.mk.injEq] at reads
    rw [← reads.1]
    trivial

/-- Whatever comes next has names that can be read. -/
theorem yields_nextEvent (phase : Phase) :
    (nextEvent phase).Yields fun result => result.1.WellNamed := by
  have outside (declaration : Scanner Event) (yields : declaration.Yields Event.WellNamed) :
      (firstOf (andThen .beforeRoot declaration)
        [andThen (.tag 1) openTag, andThen .beforeRoot blank, andThen .beforeRoot comment,
         andThen .beforeRoot instruction]).Yields fun result => result.1.WellNamed := by
    refine yields_firstOf (yields_andThen yields) ?_
    simp only [List.forall_mem_cons]
    exact ⟨yields_andThen yields_openTag, yields_andThen yields_blank,
      yields_andThen yields_comment, yields_andThen yields_instruction, List.forall_mem_nil _⟩
  cases phase with
  | beginning =>
      exact outside _ <| yields_then fun _ => yields_then fun _ => yields_then fun _ =>
        yields_then fun _ => yields_then fun _ => yields_then fun _ => yields_pure trivial
  | beforeRoot =>
      exact outside _ <| yields_then fun _ => yields_then fun _ => yields_then fun _ =>
        yields_then fun _ => yields_then fun _ => yields_then fun _ => yields_then fun _ =>
        yields_pure trivial
  | tag depth =>
      refine yields_firstOf (yields_openAttribute depth) ?_
      simp only [List.forall_mem_cons]
      exact ⟨yields_andThen <| yields_then fun _ => yields_then fun _ => yields_pure trivial,
        yields_andThen <| yields_then fun _ => yields_then fun _ => yields_pure trivial,
        List.forall_mem_nil _⟩
  | value depth quote =>
      refine yields_firstOf (yields_andThen <| yields_then fun _ => yields_pure trivial) ?_
      simp only [List.forall_mem_cons]
      exact ⟨yields_andThen <| yields_then fun _ => yields_pure trivial,
        yields_andThen <| yields_then fun _ => yields_pure trivial, List.forall_mem_nil _⟩
  | content depth =>
      refine yields_firstOf (yields_andThen yields_openTag) ?_
      simp only [List.forall_mem_cons]
      exact ⟨yields_andThen <| yields_then fun _ => yields_then fun _ => yields_then fun _ =>
          yields_then fun _ => yields_pure trivial,
        yields_andThen yields_characterData,
        yields_andThen <| yields_then fun _ => yields_then fun _ => yields_then fun _ =>
          yields_pure trivial,
        yields_andThen <| yields_then fun _ => yields_pure trivial,
        yields_andThen yields_comment, yields_andThen yields_instruction, List.forall_mem_nil _⟩
  | afterRoot =>
      refine yields_firstOf (yields_andThen yields_comment) ?_
      simp only [List.forall_mem_cons]
      exact ⟨yields_andThen yields_instruction, yields_andThen yields_blank,
        List.forall_mem_nil _⟩

end Scanner

/-! ## Steps -/

/-- A point of a text that is being read: what may come next, what is left and what was built. -/
structure Reading where
  phase : Phase
  chars : List Char
  building : Building

namespace Reading

inductive Step : Reading → Reading → Prop
  | event {phase next : Phase} {chars rest : List Char} {building built : Building} {event : Event}
      (scanned : (Scanner.nextEvent phase).Reads chars (event, next) rest)
      (shorter : rest.length < chars.length) (builds : building.step event = .ok built) :
      Step ⟨phase, chars, building⟩ ⟨next, rest, built⟩

def Steps : Reading → Reading → Prop :=
  Relation.ReflTransGen Step

def start (chars : List Char) : Reading :=
  ⟨.beginning, chars, {}⟩

def outcome (reading : Reading) : Except Failure Document := do
  let (events, failure) := events reading.phase (.ofList reading.chars)
  let building ← reading.building.run events
  match failure with
  | some failure => .error failure
  | none => building.finish

theorem outcome_start (chars : List Char) : (start chars).outcome = Document.read chars := rfl

theorem Step.outcome_eq {reading later : Reading} (step : Step reading later) :
    reading.outcome = later.outcome := by
  obtain @⟨phase, next, chars, rest, building, built, event, scanned, shorter, builds⟩ := step
  have more : ¬ (phase = .afterRoot ∧ (Input.ofList chars).size = 0) := by
    rintro ⟨-, empty⟩
    have : chars.length = 0 := empty
    omega
  unfold Scanner.Reads at scanned
  unfold outcome
  rw [events, if_neg more]
  rcases read : Scanner.nextEvent phase (.ofList chars) with ⟨noted, result⟩
  obtain rfl : result = .ok ((event, next), .ofList rest) := by simpa [read] using scanned
  have counted : (Input.ofList rest).size < (Input.ofList chars).size := shorter
  simp only [counted, if_true, Building.run, builds]
  rfl

theorem Steps.outcome_eq {reading later : Reading} (steps : Steps reading later) :
    reading.outcome = later.outcome := by
  induction steps with
  | refl => rfl
  | tail _ step ih => rw [ih, step.outcome_eq]

/-- Steps to the end of a text make its document. -/
theorem Steps.read_eq {chars : List Char} {building : Building}
    (steps : Steps (start chars) ⟨.afterRoot, [], building⟩) :
    Document.read chars = building.finish := by
  rw [← outcome_start, steps.outcome_eq, outcome, events, if_pos ⟨rfl, rfl⟩]
  rfl

/-- Every document was made by steps. -/
theorem exists_steps_of_outcome (phase : Phase) (chars : List Char) (building : Building)
    {document : Document} (made : outcome ⟨phase, chars, building⟩ = .ok document) :
    ∃ final, Steps ⟨phase, chars, building⟩ final ∧ final.building.finish = .ok document := by
  by_cases done : phase = .afterRoot ∧ (Input.ofList chars).size = 0
  · refine ⟨_, .refl, ?_⟩
    rw [outcome, events, if_pos done] at made
    exact made
  rw [outcome, events, if_neg done] at made
  rcases read : Scanner.nextEvent phase (.ofList chars) with
    ⟨noted, failure | ⟨⟨event, next⟩, rest⟩⟩
  · simp only [read, Building.run] at made
    cases made
  · by_cases shorter : rest.size < (Input.ofList chars).size
    · simp only [read, shorter, if_true, Building.run] at made
      rcases builds : building.step event with failure | built
      · rw [builds] at made
        cases made
      · rw [builds] at made
        have later : outcome ⟨next, rest.chars, built⟩ = .ok document := by
          rw [outcome, ← rest.eq_ofList]
          exact made
        have fewer : rest.chars.length < chars.length := rest.size_eq ▸ shorter
        obtain ⟨final, steps, finishes⟩ := exists_steps_of_outcome next rest.chars built later
        have scanned : (Scanner.nextEvent phase).Reads chars (event, next) rest.chars := by
          rw [Scanner.Reads, read, ← rest.eq_ofList]
        exact ⟨final, .head (.event scanned fewer builds) steps, finishes⟩
    · refine ⟨_, .refl, ?_⟩
      simp only [read, shorter, if_false, Building.run] at made
      exact made
termination_by chars.length

theorem exists_steps_of_read {chars : List Char} {document : Document}
    (made : Document.read chars = .ok document) :
    ∃ final, Steps (start chars) final ∧ final.building.finish = .ok document :=
  exists_steps_of_outcome .beginning chars {} made

end Reading

end DocPreview.Xml
