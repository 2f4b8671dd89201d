/-!
# XML names

The characters that names are made of, as the XML recommendation lists them. A name without a
colon is a local name; a qualified name is a local name that may stand behind a namespace prefix.
-/

set_option autoImplicit false

namespace DocPreview.Xml

def inRanges (ranges : List (Nat × Nat)) (code : Nat) : Bool :=
  ranges.any fun (first, last) => first ≤ code && code ≤ last

def nameStartRanges : List (Nat × Nat) :=
  [(0x41, 0x5A), (0x5F, 0x5F), (0x61, 0x7A), (0xC0, 0xD6), (0xD8, 0xF6), (0xF8, 0x2FF),
   (0x370, 0x37D), (0x37F, 0x1FFF), (0x200C, 0x200D), (0x2070, 0x218F), (0x2C00, 0x2FEF),
   (0x3001, 0xD7FF), (0xF900, 0xFDCF), (0xFDF0, 0xFFFD), (0x10000, 0xEFFFF)]

/-- The code points that may also stand in a local name, but not begin it. -/
def nameRestRanges : List (Nat × Nat) :=
  [(0x2D, 0x2E), (0x30, 0x39), (0xB7, 0xB7), (0x300, 0x36F), (0x203F, 0x2040)]

def beginsName (char : Char) : Bool :=
  inRanges nameStartRanges char.toNat

def continuesName (char : Char) : Bool :=
  beginsName char || inRanges nameRestRanges char.toNat

def isSpace (char : Char) : Bool :=
  char == ' ' || char == '\t' || char == '\r' || char == '\n'

structure QName where
  /-- The namespace prefix, if the name has one. -/
  space : Option String := none
  localPart : String
deriving DecidableEq, Repr

namespace QName

def text (name : QName) : String :=
  match name.space with
  | some space => space ++ ":" ++ name.localPart
  | none => name.localPart

/-- Whether a name may stand before another: names without a prefix first, then by prefix, then
by local part. -/
def precedes (left right : QName) : Bool :=
  match left.space, right.space with
  | none, some _ => true
  | some _, none => false
  | none, none => left.localPart ≤ right.localPart
  | some first, some second =>
    first < second || (first == second && left.localPart ≤ right.localPart)

end QName

end DocPreview.Xml
