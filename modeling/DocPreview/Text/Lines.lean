import DocPreview.Text.Blank

/-!
# Lines of a text

A line feed ends a line, and a carriage return before it belongs to the line break. What follows
the last line feed is a line only when it is not empty, and it keeps a carriage return.
-/

set_option autoImplicit false

namespace DocPreview.Text

/-- The characters without one carriage return at their end. -/
def dropReturn (chars : List Char) : List Char :=
  match chars.reverse with
  | '\r' :: rest => rest.reverse
  | _ => chars

/-- The lines of the segments between line feeds. -/
def ofSegments : List (List Char) → List (List Char)
  | [] => []
  | [last] => if last.isEmpty then [] else [last]
  | segment :: next :: rest => dropReturn segment :: ofSegments (next :: rest)

def lines (chars : List Char) : List (List Char) :=
  ofSegments (chars.splitOn '\n')

def joinLines (lines : List (List Char)) : List Char :=
  List.intercalate ['\n'] lines

end DocPreview.Text
