import DocPreview.Dialect
import DocPreview.Options.Basic

/-!
# Command-line arguments

Options may stand in any order before and after the comment file, each at most once. The value
of an option follows it, or is attached to it, with an equals sign or, behind a single letter,
without one. After a double dash there are no more options. The arguments are read from the
left, and the first fault among them ends the reading.
-/

set_option autoImplicit false

namespace DocPreview.CommandLine

inductive Flag where
  | declaration | dialect | style | config | policy | includeMode | keepRepeatedLinks
  | source | output | help
deriving DecidableEq, Repr

namespace Flag

def longNames : List (String × Flag) :=
  [("declaration", .declaration), ("dialect", .dialect), ("style", .style),
   ("config", .config), ("policy", .policy), ("include-mode", .includeMode),
   ("no-dedupe-links", .keepRepeatedLinks), ("source", .source), ("output", .output),
   ("help", .help)]

def shortNames : List (Char × Flag) :=
  [('d', .declaration), ('s', .style), ('c', .config), ('o', .output), ('h', .help)]

def takesValue (flag : Flag) : Bool :=
  flag != .keepRepeatedLinks && flag != .help

end Flag

inductive Refusal where
  /-- The arguments do not fit the usage. -/
  | usage
  /-- The arguments ask for help. -/
  | help
deriving DecidableEq, Repr

structure Arguments where
  /-- The file of the comment; standard input if there is none. -/
  comment? : Option String := none
  declaration? : Option String := none
  dialect? : Option Dialect := none
  style? : Option String := none
  config? : Option String := none
  policy? : Option TagPolicy := none
  includeMode? : Option IncludeMode := none
  keepRepeatedLinks : Bool := false
  source? : Option String := none
  output? : Option String := none
deriving DecidableEq, Repr

def setOnce {α : Type} (current : Option α) (value? : Option α) :
    Except Refusal (Option α) :=
  match current, value? with
  | none, some value => .ok (some value)
  | _, _ => .error .usage

def pathValue? (value : String) : Option String :=
  if value.isEmpty then none else some value

namespace Arguments

def setValue (arguments : Arguments) (value : String) :
    (flag : Flag) → Except Refusal Arguments
  | .declaration => do
    let declaration? ← setOnce arguments.declaration? (pathValue? value)
    return { arguments with declaration? }
  | .dialect => do
    let dialect? ← setOnce arguments.dialect? (Dialect.ofName? value)
    return { arguments with dialect? }
  | .style => do
    let style? ← setOnce arguments.style? (some value)
    return { arguments with style? }
  | .config => do
    let config? ← setOnce arguments.config? (pathValue? value)
    return { arguments with config? }
  | .policy => do
    let policy? ← setOnce arguments.policy? (TagPolicy.ofName? value)
    return { arguments with policy? }
  | .includeMode => do
    let includeMode? ← setOnce arguments.includeMode? (IncludeMode.ofName? value)
    return { arguments with includeMode? }
  | .source => do
    let source? ← setOnce arguments.source? (pathValue? value)
    return { arguments with source? }
  | .output => do
    let output? ← setOnce arguments.output? (pathValue? value)
    return { arguments with output? }
  | .keepRepeatedLinks | .help => .error .usage

def setFlag (arguments : Arguments) : (flag : Flag) → Except Refusal Arguments
  | .help => .error .help
  | .keepRepeatedLinks =>
    if arguments.keepRepeatedLinks then .error .usage
    else .ok { arguments with keepRepeatedLinks := true }
  | _ => .error .usage

def setComment (arguments : Arguments) (value : String) : Except Refusal Arguments := do
  let comment? ← setOnce arguments.comment? (pathValue? value)
  return { arguments with comment? }

end Arguments

inductive Word where
  | plain
  /-- The double dash. -/
  | endOfOptions
  /-- An option with the value that is attached to it. -/
  | option (flag : Flag) (attached? : Option String)
  | unknown
deriving DecidableEq, Repr

namespace Word

def ofLong (chars : List Char) : Word :=
  let name := String.ofList (chars.takeWhile (· != '='))
  let attached? := (chars.dropWhile (· != '=')).tail?.map String.ofList
  match Flag.longNames.lookup name with
  | some flag => .option flag attached?
  | none => .unknown

/-- An option behind one dash. What follows the letter is the value, if one belongs to it. -/
def ofShort (letter : Char) (rest : List Char) : Word :=
  match Flag.shortNames.lookup letter with
  | none => .unknown
  | some flag =>
    match rest with
    | [] => .option flag none
    | '=' :: value => .option flag (if flag.takesValue then some (String.ofList value) else none)
    | value => .option flag (if flag.takesValue then some (String.ofList value) else none)

/-- What a word is. A single dash is no option. -/
def ofText (text : String) : Word :=
  match text.toList with
  | ['-', '-'] => .endOfOptions
  | '-' :: '-' :: rest => ofLong rest
  | '-' :: letter :: rest => ofShort letter rest
  | _ => .plain

end Word

namespace Arguments

/-- Reads the words of a command line from the left. -/
def read (arguments : Arguments) : (words : List String) → Except Refusal Arguments
  | [] => .ok arguments
  | word :: words =>
    match Word.ofText word with
    | .unknown => .error .usage
    | .endOfOptions => words.foldlM setComment arguments
    | .plain => do
      let next ← arguments.setComment word
      next.read words
    | .option flag (some value) => do
      let next ← arguments.setValue value flag
      next.read words
    | .option flag none =>
      if flag.takesValue then
        match words with
        | [] => .error .usage
        | value :: words =>
          if Word.ofText value = .plain then do
            let next ← arguments.setValue value flag
            next.read words
          else .error .usage
      else do
        let next ← arguments.setFlag flag
        next.read words

/-- The arguments of a command line. The declaration has to be among them. -/
def ofWords (words : List String) : Except Refusal Arguments := do
  let arguments ← ({} : Arguments).read words
  if arguments.declaration?.isNone then .error .usage else return arguments

end Arguments

end DocPreview.CommandLine
