import DocPreview.XPath.Value

/-!
# Functions of expressions

The functions that a query may call, by the form of their arguments. The number of arguments is
checked after all of them are evaluated.
-/

set_option autoImplicit false

namespace DocPreview.XPath

structure Context where
  place : Place
  /-- The position of the place among those that a predicate is asked about. -/
  position : Nat
  /-- The number of those places. -/
  size : Nat

/-- A function, by the form of its arguments. -/
inductive Function where
  /-- Without an argument. -/
  | constant (apply : Context → Value)
  | ofValue (apply : Value → Value)
  | ofPlaces (apply : List Place → Value)
  /-- Of a value, or of the place where it is called. -/
  | ofValueHere (apply : Value → Value)
  /-- Of the first of some places, or of the place where it is called. -/
  | ofPlaceHere (apply : Place → String)
  | ofTwoTexts (apply : List Char → List Char → Value)
  | ofThreeTexts (apply : List Char → List Char → List Char → Value)
  /-- Of a text, a start and a length that may be missing. -/
  | ofRange (apply : List Char → Float → Option Float → Value)
  /-- Of two texts or more. -/
  | ofTexts (apply : List String → Value)

namespace Function

def wrongArity (expected : Nat) (arguments : List Value) : Evaluated Value :=
  if arguments.length < expected then
    .error (.notEnoughArguments expected arguments.length)
  else .error (.tooManyArguments expected arguments.length)

def call (function : Function) (context : Context) (arguments : List Value) :
    Evaluated Value :=
  match function, arguments with
  | .constant apply, [] => .ok (apply context)
  | .constant _, arguments => wrongArity 0 arguments
  | .ofValue apply, [value] => .ok (apply value)
  | .ofValue _, arguments => wrongArity 1 arguments
  | .ofPlaces apply, [value] => do return apply (← value.argumentPlaces?)
  | .ofPlaces _, arguments => wrongArity 1 arguments
  | .ofValueHere apply, [] => .ok (apply (.nodes [context.place]))
  | .ofValueHere apply, [value] => .ok (apply value)
  | .ofValueHere _, arguments => wrongArity 1 arguments
  | .ofPlaceHere apply, [] => .ok (.string (apply context.place))
  | .ofPlaceHere apply, [value] => do
    let places ← value.argumentPlaces?
    return .string ((places.head?.map apply).getD "")
  | .ofPlaceHere _, arguments => wrongArity 1 arguments
  | .ofTwoTexts apply, [first, second] =>
    .ok (apply first.toText.toList second.toText.toList)
  | .ofTwoTexts _, arguments => wrongArity 2 arguments
  | .ofThreeTexts apply, [first, second, third] =>
    .ok (apply first.toText.toList second.toText.toList third.toText.toList)
  | .ofThreeTexts _, arguments => wrongArity 3 arguments
  | .ofRange apply, [text, start] =>
    .ok (apply text.toText.toList start.toNumber none)
  | .ofRange apply, [text, start, length] =>
    .ok (apply text.toText.toList start.toNumber (some length.toNumber))
  | .ofRange _, arguments => wrongArity (if arguments.length < 2 then 2 else 3) arguments
  | .ofTexts apply, first :: second :: rest =>
    .ok (apply ((first :: second :: rest).map Value.toText))
  | .ofTexts _, arguments => wrongArity 2 arguments

/-! ## Texts -/

def before (text mark : List Char) : Value :=
  .string (String.ofList (((Text.splitAtFirst? mark text).map Prod.fst).getD []))

def behind (text mark : List Char) : Value :=
  .string (String.ofList (((Text.splitAtFirst? mark text).map Prod.snd).getD []))

/-- The characters whose positions, counted from one, lie in the rounded range. -/
def substring (text : List Char) (start : Float) (length : Option Float) : Value :=
  let start := Number.roundHalfUp start
  let length := (length.map Number.roundHalfUp).getD (1.0 / 0.0)
  let kept := text.zipIdx.filter fun (_, index) =>
    let position := Float.ofNat (index + 1)
    start ≤ position && position < start + length
  .string (String.ofList (kept.map Prod.fst))

/-- The text with single spaces between its words. -/
def normalized (text : List Char) : Value :=
  .string (" ".intercalate ((Text.runs Xml.isSpace text).map String.ofList))

/-- The text with each character replaced by the one at the same place of another text, and
dropped where that one is too short. -/
def translate (text wanted replacements : List Char) : Value :=
  let table := wanted.mapIdx fun index char => (char, replacements[index]?)
  .string (String.ofList (text.filterMap fun char =>
    match table.lookup char with
    | some replacement => replacement
    | none => some char))

/-! ## The library -/

def ofNumber (apply : Float → Float) : Function :=
  .ofValue fun value => .number (apply value.toNumber)

def sum (places : List Place) : Value :=
  .number (places.foldl (fun total place => total + readNumber place.text) 0.0)

def library : List (String × Function) :=
  [("last", .constant fun context => .number (Float.ofNat context.size)),
   ("position", .constant fun context => .number (Float.ofNat context.position)),
   ("count", .ofPlaces fun places => .number (Float.ofNat places.length)),
   ("local-name", .ofPlaceHere fun place => (place.expandedName?.map Prod.snd).getD ""),
   ("namespace-uri",
     .ofPlaceHere fun place => (place.expandedName?.bind Prod.fst).getD ""),
   ("name", .ofPlaceHere Place.qualifiedName),
   ("string", .ofValueHere fun value => .string value.toText),
   ("concat", .ofTexts fun texts => .string (String.join texts)),
   ("starts-with", .ofTwoTexts fun text start => .boolean (start.isPrefixOf text)),
   ("contains", .ofTwoTexts fun text part =>
     .boolean (Text.splitAtFirst? part text).isSome),
   ("substring-before", .ofTwoTexts before),
   ("substring-after", .ofTwoTexts behind),
   ("substring", .ofRange substring),
   ("string-length",
     .ofValueHere fun value => .number (Float.ofNat value.toText.length)),
   ("normalize-space", .ofValueHere fun value => normalized value.toText.toList),
   ("translate", .ofThreeTexts translate),
   ("boolean", .ofValue fun value => .boolean value.toBool),
   ("not", .ofValue fun value => .boolean !value.toBool),
   ("true", .constant fun _ => .boolean true),
   ("false", .constant fun _ => .boolean false),
   ("number", .ofValueHere fun value => .number value.toNumber),
   ("sum", .ofPlaces sum),
   ("floor", ofNumber Float.floor),
   ("ceiling", ofNumber Float.ceil),
   ("round", ofNumber Number.roundHalfUp)]

def named? (name : String) : Option Function :=
  library.lookup name

end Function

end DocPreview.XPath
