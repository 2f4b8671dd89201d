import DocPreview.Text.Lines

/-!
# Code blocks

A code block is shown without blank lines at its ends, without the indentation that all its
lines share and without blanks at the ends of lines. Tabs may be replaced first, each by the
spaces that lead to the next column that is a multiple of the tab size.
-/

set_option autoImplicit false

namespace DocPreview.CodeBlock

/-- The characters with tabs replaced, where the first one stands in the given column. -/
def expandFrom (size : Nat) : (column : Nat) → List Char → List Char
  | _, [] => []
  | column, char :: chars =>
    if char == '\t' then
      let width := size - column % size
      List.replicate width ' ' ++ expandFrom size (column + width) chars
    else if char == '\n' then char :: expandFrom size 0 chars
    else char :: expandFrom size (column + 1) chars

/-- The characters with tabs replaced. A size of zero leaves them alone. -/
def expandChars (size : Nat) (chars : List Char) : List Char :=
  if size = 0 then chars else expandFrom size 0 chars

def expandTabs (size : Nat) (text : String) : String :=
  String.ofList (expandChars size text.toList)

def isBlankLine (line : List Char) : Bool :=
  line.all isBlank

def indentation (line : List Char) : Nat :=
  (line.takeWhile isBlank).length

def trimLines (lines : List (List Char)) : List (List Char) :=
  ((lines.dropWhile isBlankLine).reverse.dropWhile isBlankLine).reverse

/-- The least indentation of the lines that show something. -/
def sharedIndentation (lines : List (List Char)) : Nat :=
  (((lines.filter (!isBlankLine ·)).map indentation).min?).getD 0

def formatLines (lines : List (List Char)) : List (List Char) :=
  let body := trimLines lines
  let indentation := sharedIndentation body
  body.map fun line => Text.trimEnd (line.drop indentation)

/-- The text of a block as it is shown; tabs are replaced when there is a size for them. -/
def format (tabSize : Option Nat) (text : String) : String :=
  let chars :=
    match tabSize with
    | some size => expandChars size text.toList
    | none => text.toList
  String.ofList (Text.joinLines (formatLines (Text.lines chars)))

end DocPreview.CodeBlock
