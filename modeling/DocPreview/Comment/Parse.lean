import DocPreview.Dialect
import DocPreview.Text.Lines
import DocPreview.Xml.Document

/-!
# From raw comments to documentation trees

A raw comment has markers on its lines. What they enclose is the content of the root element. A
comment that is not well-formed still has a tree: a root with a single failure element, which
says where in the text without markers the reading stopped.
-/

set_option autoImplicit false

namespace DocPreview.Comment

/-- The line without the closing mark of a block comment, if it has one. -/
def dropBlockEnd (line : List Char) : List Char :=
  (Text.dropSuffix? ['*', '/'] line).getD line

/-- A line of a block comment without its markers; none when it holds nothing else. -/
def stripBlockLine (line : List Char) : Option (List Char) :=
  let trimmed := Text.trimStart line
  let block := dropBlockEnd trimmed
  match Text.dropOpening? ['/', '*', '*'] block with
  | some rest => if rest.all isBlank then none else some rest
  | none =>
    if block.isEmpty && !trimmed.isEmpty then none
    else some ((Text.dropOpening? ['*'] block).getD line)

/-- A line without its markers and without one space behind them; none when the line is nothing
but a marker of a block comment. -/
def stripLine (dialect : Dialect) (line : List Char) : Option (List Char) :=
  let stripped :=
    match Text.dropOpening? dialect.commentPrefix.toList (Text.trimStart line), dialect with
    | some rest, _ => some rest
    | none, .csharp => stripBlockLine line
    | none, .visualBasic => some line
  stripped.map fun rest => (Text.dropOpening? [' '] rest).getD rest

def stripPrefixes (dialect : Dialect) (raw : String) : String :=
  String.ofList (Text.joinLines ((Text.lines raw.toList).filterMap (stripLine dialect)))

/-- The characters that end within the first `size` bytes. -/
def takeBytes : (size : Nat) → List Char → List Char
  | _, [] => []
  | size, char :: chars =>
    if char.utf8Size ≤ size then char :: takeBytes (size - char.utf8Size) chars else []

def lastLine (chars : List Char) : List Char :=
  (chars.reverse.takeWhile (· != '\n')).reverse

/-- Line and column behind the characters, both counted from one. -/
def lineColumn (before : List Char) : Nat × Nat :=
  (before.count '\n' + 1, (lastLine before).length + 1)

def rootOpening : String := "<" ++ rootTag ++ ">"

def wrapped (body : String) : String :=
  rootOpening ++ body ++ "</" ++ rootTag ++ ">"

/-- Line and column in the body where the reading of the wrapped body stopped. -/
def location (body : String) (error : Xml.Error) : Nat × Nat :=
  lineColumn (takeBytes (error.offset - rootOpening.utf8ByteSize) body.toList)

def failureRoot (body : String) (error : Xml.Error) : Element :=
  let (line, column) := location body error
  let message :=
    "XML parse error at line " ++ Nat.repr line ++ ", column " ++ Nat.repr column ++ ": " ++
      error.message
  { name := rootTag
    children :=
      [.element errorTag [("line", Nat.repr line), ("column", Nat.repr column)]
        [.text message]] }

def parse (dialect : Dialect) (raw : String) : Element :=
  let body := stripPrefixes dialect raw
  match Element.ofXml (wrapped body) with
  | .ok root => root
  | .error error => failureRoot body error

end DocPreview.Comment
