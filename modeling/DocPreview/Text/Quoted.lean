import DocPreview.Text.Printable

/-!
# Quoted texts

A text between double quotes, as errors show one. The quote, the backslash and the common control
characters have short escapes, what cannot be shown by itself is written by its code point, and
every other character stands for itself.
-/

set_option autoImplicit false

namespace DocPreview.Text

/-- The characters with an escape of their own. -/
def shortEscapes : List (Char × Char) :=
  [('"', '"'), ('\\', '\\'), ('\t', 't'), ('\r', 'r'), ('\n', 'n'), ('\x00', '0')]

def quotedChar (char : Char) : List Char :=
  match shortEscapes.lookup char with
  | some mark => ['\\', mark]
  | none =>
    if isPrintable char && !extendsGrapheme char then [char]
    else "\\u\x7b".toList ++ Nat.toDigits 16 char.toNat ++ ['\x7d']

def quoted (text : String) : String :=
  "\"" ++ String.ofList (text.toList.flatMap quotedChar) ++ "\""

end DocPreview.Text
