/-!
# Signature tokens

A signature is a flat list of classified tokens; its plain text is their concatenation. What
writes a signature says only which words and marks follow each other. `layOut` then puts a
space before a word wherever the token before it calls for one.
-/

set_option autoImplicit false

namespace DocPreview

/-- What a token is, as far as its markup is concerned. -/
inductive TokenClass where
  | keyword
  /-- A type name in the spelling of the dialect. -/
  | typeName
  /-- The name of another declaration: an attribute type or an implemented member. -/
  | reference
  /-- The own name of the declaration. -/
  | identifier
  | parameter
  /-- An attribute argument or a default value. -/
  | literal
  | punctuation
  | space
  | lineBreak
  | indent
  /-- The mark that a line goes on in the next one. -/
  | continuation
  /-- The fixed text for a declaration without signature syntax. -/
  | placeholder
deriving DecidableEq, Repr

namespace TokenClass

/-- The style class that marks a token up; none for the tokens that are mere layout. -/
def styleClass? : TokenClass → Option String
  | .keyword => some "keyword"
  | .typeName => some "type"
  | .reference => some "reference"
  | .identifier => some "identifier"
  | .parameter => some "parameter"
  | .literal => some "literal"
  | .continuation => some "continuation"
  | .placeholder => some "unsupported"
  | .punctuation | .space | .lineBreak | .indent => none

def isWord : TokenClass → Bool
  | .keyword | .typeName | .reference | .identifier | .parameter | .literal => true
  | _ => false

end TokenClass

structure Token where
  tokenClass : TokenClass
  text : String
deriving DecidableEq, Repr

/-- Whether a word after this token is set off by a space. -/
def Token.callsForSpace (token : Token) : Bool :=
  token.tokenClass.isWord ||
    (token.tokenClass == .punctuation &&
      [")", "]", ">", "\x7d", ",", ":", ":=", "="].contains token.text)

/-- One step of writing a signature. -/
inductive Piece where
  /-- A word, left out when it is empty, and set off from what stands before it. -/
  | word (tokenClass : TokenClass) (text : String)
  /-- A token that is written as it stands. -/
  | mark (tokenClass : TokenClass) (text : String)
deriving DecidableEq, Repr

/-- The tokens of the pieces, where `spaced` says whether the token before them calls for a
space. -/
def layOut : (spaced : Bool) → List Piece → List Token
  | _, [] => []
  | spaced, .word tokenClass text :: pieces =>
    if text.isEmpty then layOut spaced pieces
    else
      let token : Token := ⟨tokenClass, text⟩
      (if spaced then [⟨.space, " "⟩] else []) ++ token :: layOut token.callsForSpace pieces
  | _, .mark tokenClass text :: pieces =>
    let token : Token := ⟨tokenClass, text⟩
    token :: layOut token.callsForSpace pieces

structure Signature where
  tokens : List Token := []
deriving DecidableEq, Repr

namespace Signature

def ofPieces (pieces : List Piece) : Signature :=
  ⟨layOut false pieces⟩

def text (signature : Signature) : String :=
  String.join (signature.tokens.map (·.text))

/-- Whether the signature stands for a declaration that has no syntax. -/
def isPlaceholder (signature : Signature) : Bool :=
  signature.tokens.any fun token => token.tokenClass == .placeholder

def parameterNames (signature : Signature) : List String :=
  (signature.tokens.filter fun token => token.tokenClass == .parameter).map (·.text)

end Signature

end DocPreview
