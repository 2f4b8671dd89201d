/-!
# Blank characters

The blank characters are those of the Unicode property `White_Space`. Trimming, splitting into
words and the test for a blank text all use this one class, and not the ASCII class of
`Char.isWhitespace`.
-/

set_option autoImplicit false

namespace DocPreview

/-- A character with the Unicode property `White_Space`. -/
def isBlank (char : Char) : Bool :=
  let code := char.toNat
  (0x9 ≤ code && code ≤ 0xD) || code == 0x20 || code == 0x85 || code == 0xA0 ||
  code == 0x1680 || (0x2000 ≤ code && code ≤ 0x200A) || code == 0x2028 || code == 0x2029 ||
  code == 0x202F || code == 0x205F || code == 0x3000

namespace Text

def trimStart (chars : List Char) : List Char :=
  chars.dropWhile isBlank

def trimEnd (chars : List Char) : List Char :=
  chars.foldr (fun char rest => if rest.isEmpty && isBlank char then [] else char :: rest) []

def trim (chars : List Char) : List Char :=
  trimEnd (trimStart chars)

/-- The characters between the first start of `suffix` and the end, removed when the characters
end in `suffix`; `none` when they do not. -/
def dropSuffix? (suffix : List Char) (chars : List Char) : Option (List Char) :=
  if suffix.isSuffixOf chars then some (chars.take (chars.length - suffix.length)) else none

/-- What follows `opening`, when the characters begin with it. -/
def dropOpening? : (opening chars : List Char) → Option (List Char)
  | [], chars => some chars
  | _ :: _, [] => none
  | first :: opening, char :: chars =>
    if first = char then dropOpening? opening chars else none

/-- The characters before and after the first occurrence of `mark`. -/
def splitAtFirst? (mark : List Char) : List Char → Option (List Char × List Char)
  | [] => if mark.isEmpty then some ([], []) else none
  | char :: chars =>
    match dropOpening? mark (char :: chars) with
    | some after => some ([], after)
    | none => (splitAtFirst? mark chars).map fun (before, after) => (char :: before, after)

/-- The nonempty runs of characters between those of a class. -/
def runs (isGap : Char → Bool) (chars : List Char) : List (List Char) :=
  (chars.splitBy fun left right => isGap left == isGap right).filter
    fun run => !(run.all isGap)

/-- The nonempty runs of characters between blanks. -/
def words (chars : List Char) : List (List Char) :=
  runs isBlank chars

end Text

def trimmed (text : String) : String :=
  String.ofList (Text.trim text.toList)

def isBlankText (text : String) : Bool :=
  text.toList.all isBlank

/-- The text with the letters `A` to `Z` in lower case; every other character stays. -/
def asciiLower (text : String) : String :=
  String.ofList (text.toList.map Char.toLower)

end DocPreview
