import DocPreview.Text.Blank
import DocPreview.Xml.Name
import DocPreview.Xml.Problem

/-!
# Scanners

A scanner reads the characters at one point. Besides its outcome it notes the failures that it
has recovered from, since the error for a text that cannot be read names everything that was
tried at the furthest point. Trying one alternative after another notes the failure of each but
the last, which is the outcome when none succeeds.
-/

set_option autoImplicit false

namespace DocPreview.Xml

/-- The characters from one point on, with their number at hand. -/
structure Input where
  chars : List Char
  size : Nat
  size_eq : size = chars.length

namespace Input

def ofList (chars : List Char) : Input :=
  ⟨chars, chars.length, rfl⟩

def drop (input : Input) (count : Nat) : Input :=
  ⟨input.chars.drop count, input.size - count, by simp [input.size_eq]⟩

end Input

structure Attempt (α : Type) where
  /-- The furthest failure that the scanner has recovered from. -/
  noted : Option Failure
  outcome : Except Failure (α × Input)

/-- A reader of the characters at one point. -/
def Scanner (α : Type) : Type :=
  Input → Attempt α

namespace Scanner

instance : Monad Scanner where
  pure value := fun input => ⟨none, .ok (value, input)⟩
  bind first next := fun input =>
    match first input with
    | ⟨noted, .error failure⟩ => ⟨noted, .error failure⟩
    | ⟨noted, .ok (value, rest)⟩ =>
      let attempt := next value rest
      ⟨Failure.furthest noted attempt.noted, attempt.outcome⟩

def fail {α : Type} (problem : Problem) : Scanner α := fun input =>
  ⟨none, .error ⟨input.size, [problem]⟩⟩

def take {α : Type} (count : Nat) (value : α) : Scanner α := fun input =>
  ⟨none, .ok (value, input.drop count)⟩

/-- Tries the second scanner at the same point when the first fails, unless that is fatal. -/
def either {α : Type} (first second : Scanner α) : Scanner α := fun input =>
  match first input with
  | ⟨noted, .ok result⟩ => ⟨noted, .ok result⟩
  | ⟨noted, .error failure⟩ =>
    if failure.isFatal then ⟨noted, .error failure⟩
    else
      let attempt := second input
      ⟨Failure.furthest (Failure.furthest noted (some failure)) attempt.noted,
        attempt.outcome⟩

def firstOf {α : Type} (first : Scanner α) : List (Scanner α) → Scanner α
  | [] => first
  | second :: rest => either first (firstOf second rest)

/-- Goes on without a value when the scanner fails, unless that is fatal. -/
def optional {α : Type} (scanner : Scanner α) : Scanner (Option α) := fun input =>
  match scanner input with
  | ⟨noted, .ok (value, rest)⟩ => ⟨noted, .ok (some value, rest)⟩
  | ⟨noted, .error failure⟩ =>
    if failure.isFatal then ⟨noted, .error failure⟩ else ⟨noted, .ok (none, input)⟩

/-- The number of characters left at this point. -/
def position : Scanner Nat := fun input => ⟨none, .ok (input.size, input)⟩

def literalOr (problem : Problem) (literal : String) : Scanner Unit := fun input =>
  if literal.toList.isPrefixOf input.chars then take literal.length () input
  else fail problem input

def literal (literal : String) : Scanner Unit :=
  literalOr (.expected literal) literal

/-- Reads all characters of a class; there may be none. -/
def run (belongs : Char → Bool) : Scanner (List Char) := fun input =>
  let taken := input.chars.takeWhile belongs
  take taken.length taken input

/-- Reads all characters of a class, at least one. -/
def runOf (problem : Problem) (belongs : Char → Bool) : Scanner (List Char) := fun input =>
  let taken := input.chars.takeWhile belongs
  if taken.isEmpty then fail problem input else take taken.length taken input

/-- Reads up to the first occurrence of the mark, which has to come. -/
def upTo (problem : Problem) (mark : String) : Scanner (List Char) := fun input =>
  match Text.splitAtFirst? mark.toList input.chars with
  | some (before, _) => take before.length before input
  | none => fail problem input

def space : Scanner Unit := do
  let _ ← runOf .expectedWhitespace isSpace
  pure ()

def space? : Scanner Unit := do
  let _ ← run isSpace
  pure ()

def equals : Scanner Unit := do
  space?
  literal "="
  space?

/-- A name that begins and goes on with characters of the given classes. -/
def nameOf (problem : Problem) (begins continues : Char → Bool) : Scanner String := fun input =>
  match input.chars with
  | first :: rest =>
    if begins first then
      let name := first :: rest.takeWhile continues
      take name.length (String.ofList name) input
    else fail problem input
  | [] => fail problem input

def localName (problem : Problem) : Scanner String :=
  nameOf problem beginsName continuesName

def name (problem : Problem) : Scanner String :=
  nameOf problem (fun char => beginsName char || char == ':')
    (fun char => continuesName char || char == ':')

/-- A qualified name. A colon that no local name follows is left. -/
def qualifiedName (problem : Problem) : Scanner QName := do
  let first ← localName problem
  let second ← optional do
    literal ":"
    localName problem
  match second with
  | some second => pure ⟨some first, second⟩
  | none => pure ⟨none, first⟩

def quoted {α : Type} (inner : Char → Scanner α) : Scanner α :=
  let between (quote : Char) : Scanner α := do
    let mark := String.singleton quote
    literalOr (.expectedOpeningQuote mark) mark
    let value ← inner quote
    literalOr (.expectedClosingQuote mark) mark
    pure value
  either (between '\'') (between '"')

end Scanner

end DocPreview.Xml
