import DocPreview.Html.Basic

/-!
# Code references

A code reference names a declaration as `M:Acme.Widget.Run(System.Int32)`: a letter for the
kind, the dotted path, in which a backquote begins a generic arity, and the parameters.
-/

set_option autoImplicit false

namespace DocPreview.CodeReference

/-- The kind letter and the name behind it. A reference without a single-letter opening has no
kind letter. -/
def splitKind : List Char → Option Char × List Char
  | letter :: ':' :: name =>
    if letter.toNat < 0x80 && letter != ':' then (some letter, name)
    else (none, letter :: ':' :: name)
  | name => (none, name)

/-- How many of the last names a label shows: type and member for members, else one. -/
def shownNames : Option Char → Nat
  | some letter => if ['M', 'P', 'F', 'E'].contains letter then 2 else 1
  | none => 1

/-- The names of a path, without parameters and generic arities. -/
def names (path : List Char) : List (List Char) :=
  (((path.takeWhile (· != '(')).splitOn '.').filter (!·.isEmpty)).map
    (·.takeWhile (· != '\x60'))

def label (reference : String) : String :=
  let (kind, path) := splitKind reference.toList
  let names := names path
  String.ofList (List.intercalate ['.'] (names.drop (names.length - shownNames kind)))

/-- The link to a code reference. Without a label of its own it shows that of the reference. -/
def link (reference : String) (shown : Option (List Html)) : Html :=
  .tagged "a"
    [("class", "reference"), ("href", "#" ++ reference), ("data-cref", reference)]
    (shown.getD [.text (label reference)])

end DocPreview.CodeReference
