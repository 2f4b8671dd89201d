import DocPreview.Html.Basic
import DocPreview.Text.Blank
import Mathlib.Data.List.Basic

/-!
# Reading markup

A reader of the markup that fragments are written in. It works in three passes: entities become
the characters that they stand for, apart from the bare marks; symbols become pieces, one for each
character of text and one for each tag; pieces become a tree. Nothing else in the library reads
markup: the reader is here to say what the writing means.
-/

set_option autoImplicit false

namespace DocPreview

namespace Html

/-! ## Symbols -/

inductive Symbol where
  /-- A character that stands for itself, written as it is or as an entity. -/
  | shown (char : Char)
  /-- A bare angle bracket or double quote. -/
  | mark (char : Char)
deriving DecidableEq

def Symbol.char : Symbol → Char
  | .shown char => char
  | .mark char => char

def isMark (char : Char) : Bool :=
  char == '<' || char == '>' || char == '"'

/-- The symbols of a text, where each of the four entities is one. -/
def symbols : List Char → List Symbol
  | [] => []
  | '&' :: 'a' :: 'm' :: 'p' :: ';' :: rest => .shown '&' :: symbols rest
  | '&' :: 'l' :: 't' :: ';' :: rest => .shown '<' :: symbols rest
  | '&' :: 'g' :: 't' :: ';' :: rest => .shown '>' :: symbols rest
  | '&' :: 'q' :: 'u' :: 'o' :: 't' :: ';' :: rest => .shown '"' :: symbols rest
  | char :: rest => (if isMark char then .mark char else .shown char) :: symbols rest

def unescape (text : String) : String :=
  String.ofList ((symbols text.toList).map Symbol.char)

theorem symbols_cons {char : Char} (noEntity : char ≠ '&') (rest : List Char) :
    symbols (char :: rest) = (if isMark char then .mark char else .shown char) :: symbols rest := by
  rw [symbols] <;> simp_all

/-- What stands for itself in the markup and is no mark. -/
def isPlain (char : Char) : Bool :=
  !isMark char && char != '&'

theorem symbols_mark_cons {char : Char} (mark : isMark char = true) (rest : List Char) :
    symbols (char :: rest) = .mark char :: symbols rest := by
  rw [symbols_cons (by rintro rfl; cases mark), if_pos mark]

theorem symbols_plain_cons {char : Char} (plain : isPlain char = true) (rest : List Char) :
    symbols (char :: rest) = .shown char :: symbols rest := by
  simp only [isPlain, Bool.and_eq_true, Bool.not_eq_eq_eq_not, Bool.not_true, bne_iff_ne] at plain
  rw [symbols_cons plain.2, plain.1]
  rfl

theorem symbols_plain_append {chars : List Char} (plain : ∀ char ∈ chars, isPlain char = true)
    (rest : List Char) : symbols (chars ++ rest) = chars.map .shown ++ symbols rest := by
  induction chars with
  | nil => rfl
  | cons char chars ih =>
      obtain ⟨first, further⟩ := List.forall_mem_cons.mp plain
      rw [List.cons_append, symbols_plain_cons first, ih further]
      rfl

/-- An escaped character is one symbol, and never a mark. -/
theorem symbols_escapeChar_append (char : Char) (rest : List Char) :
    symbols (escapeChar char ++ rest) = .shown char :: symbols rest := by
  unfold escapeChar
  split
  · simp [symbols]
  · simp [symbols]
  · simp [symbols]
  · simp [symbols]
  · rename_i noAmp noLt noGt noQuote
    have noMark : isMark char = false := by simp [isMark]; tauto
    rw [List.singleton_append, symbols_cons noAmp]
    simp [noMark]

theorem symbols_escape_append (text : String) (rest : List Char) :
    symbols ((escape text).toList ++ rest) = text.toList.map .shown ++ symbols rest := by
  rw [escape, String.toList_ofList]
  induction text.toList with
  | nil => rfl
  | cons char chars ih =>
      rw [List.flatMap_cons, List.append_assoc, symbols_escapeChar_append, ih]
      rfl

theorem unescape_escape (text : String) : unescape (escape text) = text := by
  have whole := symbols_escape_append text []
  rw [List.append_nil] at whole
  simp [unescape, whole, symbols, Function.comp_def, Symbol.char]

theorem isMark_of_mem_escapeChar (original : Char) :
    ∀ char ∈ escapeChar original, isMark char = false := by
  unfold escapeChar
  split
  · simp [isMark]
  · simp [isMark]
  · simp [isMark]
  · simp [isMark]
  · rename_i noLt noGt noQuote
    simp [isMark]
    tauto

theorem isMark_of_mem_escape (text : String) :
    ∀ char ∈ (escape text).toList, isMark char = false := by
  intro char member
  rw [escape, String.toList_ofList, List.mem_flatMap] at member
  obtain ⟨original, _, member⟩ := member
  exact isMark_of_mem_escapeChar original char member

/-! ## Pieces -/

/-- A character of text or a whole tag. -/
inductive Piece where
  | char (char : Char)
  | opening (tag : String) (attributes : List (String × String))
  | selfClosing (tag : String) (attributes : List (String × String))
  | closing (tag : String)

/-- Where in the markup the reading stands, with what it has read of the tag there. -/
inductive Place where
  | content
  /-- Behind the bracket that begins a tag. -/
  | bracket
  | closing (tag : List Char)
  | opening (tag : List Char)
  /-- Behind a whole attribute. -/
  | attributes (tag : List Char) (complete : List (String × String))
  | attributeName (tag : List Char) (complete : List (String × String)) (name : List Char)
  | equals (tag : List Char) (complete : List (String × String)) (name : List Char)
  | value (tag : List Char) (complete : List (String × String)) (name written : List Char)
  /-- Behind the slash that ends a self-closing tag. -/
  | slash (tag : List Char) (complete : List (String × String))

namespace Place

/-- What a symbol behind the name of a tag or behind an attribute begins or ends. -/
def behind (tag : List Char) (complete : List (String × String)) :
    Symbol → Option (Place × Option Piece)
  | .shown ' ' => some (.attributeName tag complete [], none)
  | .shown '/' => some (.slash tag complete, none)
  | .mark '>' => some (.content, some (.opening (String.ofList tag) complete))
  | _ => none

/-- The place behind one more symbol, and the piece that the symbol ends. -/
def step : Place → Symbol → Option (Place × Option Piece)
  | .content, .shown char => some (.content, some (.char char))
  | .content, .mark '<' => some (.bracket, none)
  | .bracket, .shown '/' => some (.closing [], none)
  | .bracket, .shown char => some (.opening [char], none)
  | .closing tag, .shown char => some (.closing (tag ++ [char]), none)
  | .closing tag, .mark '>' => some (.content, some (.closing (String.ofList tag)))
  | .opening tag, .shown char =>
    if char = ' ' ∨ char = '/' then behind tag [] (.shown char)
    else some (.opening (tag ++ [char]), none)
  | .opening tag, .mark char => behind tag [] (.mark char)
  | .attributes tag complete, symbol => behind tag complete symbol
  | .attributeName tag complete name, .shown char =>
    if char = '=' then some (.equals tag complete name, none)
    else some (.attributeName tag complete (name ++ [char]), none)
  | .equals tag complete name, .mark '"' => some (.value tag complete name [], none)
  | .value tag complete name written, .shown char =>
    some (.value tag complete name (written ++ [char]), none)
  | .value tag complete name written, .mark '"' =>
    some (.attributes tag (complete ++ [(String.ofList name, String.ofList written)]), none)
  | .slash tag complete, .mark '>' =>
    some (.content, some (.selfClosing (String.ofList tag) complete))
  | _, _ => none

/-- The pieces that the symbols make from a place on. Markup ends in content. -/
def read : Place → List Symbol → Option (List Piece)
  | .content, [] => some []
  | _, [] => none
  | place, symbol :: rest =>
    match place.step symbol with
    | none => none
    | some (next, piece?) => (next.read rest).map (piece?.toList ++ ·)

theorem read_cons {place next : Place} {symbol : Symbol} {piece? : Option Piece}
    (stepped : place.step symbol = some (next, piece?)) (rest : List Symbol) :
    place.read (symbol :: rest) = (next.read rest).map (piece?.toList ++ ·) := by
  rw [read, stepped]

/-- On the way through a tag nothing is given out. -/
theorem read_cons_silent {place next : Place} {symbol : Symbol}
    (stepped : place.step symbol = some (next, none)) (rest : List Symbol) :
    place.read (symbol :: rest) = next.read rest := by
  simp [read_cons stepped]

/-- A run of characters that the place gathers. -/
theorem read_gathered {place : List Char → Place} {chars : List Char}
    (gathers : ∀ char ∈ chars, ∀ read,
      (place read).step (.shown char) = some (place (read ++ [char]), none))
    (read : List Char) (rest : List Symbol) :
    (place read).read (chars.map .shown ++ rest) = (place (read ++ chars)).read rest := by
  induction chars generalizing read with
  | nil => simp
  | cons char chars ih =>
      obtain ⟨first, further⟩ := List.forall_mem_cons.mp gathers
      rw [List.map_cons, List.cons_append, read_cons_silent (first read), ih further]
      simp

end Place

/-! ## Names -/

def isNameChar (char : Char) : Bool :=
  !isBlank char && !(['<', '>', '/', '=', '"', '&'].contains char)

def isName (name : String) : Bool :=
  !name.isEmpty && name.toList.all isNameChar

inductive WellNamed : Html → Prop where
  | text {content : String} : WellNamed (.text content)
  | element {tag : String} {attributes : List (String × String)} {children : List Html}
      {selfClosing : Bool} :
      isName tag = true →
      (∀ attr ∈ attributes, isName attr.1 = true) →
      (∀ child ∈ children, WellNamed child) →
      WellNamed (.element tag attributes children selfClosing)

theorem ne_of_isNameChar {char : Char} (valid : isNameChar char = true) :
    char ≠ ' ' ∧ char ≠ '/' ∧ char ≠ '=' ∧ isPlain char = true := by
  simp only [isNameChar, Bool.and_eq_true, Bool.not_eq_eq_eq_not, Bool.not_true,
    List.contains_eq_mem, List.mem_cons, List.not_mem_nil, or_false, decide_eq_false_iff_not,
    not_or] at valid
  obtain ⟨notBlank, noLt, noGt, noSlash, noEquals, noQuote, noAmp⟩ := valid
  refine ⟨?_, noSlash, noEquals, by simp [isPlain, isMark, *]⟩
  rintro rfl
  exact absurd notBlank (by decide)

theorem isNameChar_of_isName {name : String} (valid : isName name = true) :
    ∀ char ∈ name.toList, isNameChar char = true := by
  simp only [isName, Bool.and_eq_true, List.all_eq_true] at valid
  exact valid.2

theorem symbols_name_append {name : String} (valid : isName name = true) (rest : List Char) :
    symbols (name.toList ++ rest) = name.toList.map .shown ++ symbols rest :=
  symbols_plain_append
    (fun char member => (ne_of_isNameChar (isNameChar_of_isName valid char member)).2.2.2) rest

/-! ## Tags -/

def attributesSymbols : List (String × String) → List Symbol
  | [] => []
  | (name, value) :: attributes =>
    .shown ' ' :: (name.toList.map .shown ++ .shown '=' :: .mark '"' ::
      (value.toList.map .shown ++ .mark '"' :: attributesSymbols attributes))

theorem symbols_attributesText_append {attributes : List (String × String)}
    (named : ∀ attr ∈ attributes, isName attr.1 = true) (rest : List Char) :
    symbols ((attributesText attributes).toList ++ rest) =
      attributesSymbols attributes ++ symbols rest := by
  induction attributes with
  | nil => rfl
  | cons attr attributes ih =>
      obtain ⟨name, value⟩ := attr
      obtain ⟨first, further⟩ := List.forall_mem_cons.mp named
      have text : (attributesText ((name, value) :: attributes)).toList ++ rest =
          ' ' :: (name.toList ++ '=' :: '"' ::
            ((escape value).toList ++ '"' :: ((attributesText attributes).toList ++ rest))) := by
        simp [attributesText]
      rw [text, symbols_plain_cons (by decide), symbols_name_append first,
        symbols_plain_cons (by decide), symbols_mark_cons (by decide), symbols_escape_append,
        symbols_mark_cons (by decide), ih further]
      simp [attributesSymbols]

/-- Behind the name of a tag no attribute has been read yet. -/
theorem read_opening {symbol : Symbol} (ends : symbol = .shown ' ' ∨ symbol = .shown '/' ∨
    symbol = .mark '>') (tag : List Char) (rest : List Symbol) :
    (Place.opening tag).read (symbol :: rest) =
      (Place.attributes tag []).read (symbol :: rest) := by
  have same : (Place.opening tag).step symbol = (Place.attributes tag []).step symbol := by
    rcases ends with rfl | rfl | rfl <;> simp [Place.step]
  rw [Place.read, Place.read, same]

theorem read_attributesSymbols_append {attributes : List (String × String)}
    (named : ∀ attr ∈ attributes, isName attr.1 = true) (tag : List Char)
    (complete : List (String × String)) (rest : List Symbol) :
    (Place.attributes tag complete).read (attributesSymbols attributes ++ rest) =
      (Place.attributes tag (complete ++ attributes)).read rest := by
  induction attributes generalizing complete with
  | nil => simp [attributesSymbols]
  | cons attr attributes ih =>
      obtain ⟨name, value⟩ := attr
      obtain ⟨first, further⟩ := List.forall_mem_cons.mp named
      have gathersName : ∀ char ∈ name.toList, ∀ read,
          (Place.attributeName tag complete read).step (.shown char) =
            some (.attributeName tag complete (read ++ [char]), none) := by
        intro char member read
        simp [Place.step, (ne_of_isNameChar (isNameChar_of_isName first char member)).2.2.1]
      have gathersValue : ∀ char ∈ value.toList, ∀ read,
          (Place.value tag complete name.toList read).step (.shown char) =
            some (.value tag complete name.toList (read ++ [char]), none) :=
        fun _ _ _ => rfl
      simp only [attributesSymbols, List.cons_append, List.append_assoc]
      rw [Place.read_cons_silent rfl, Place.read_gathered gathersName, List.nil_append,
        Place.read_cons_silent rfl, Place.read_cons_silent rfl, Place.read_gathered gathersValue,
        List.nil_append, Place.read_cons_silent rfl, ih further]
      simp

/-- A tag up to where its attributes end. -/
theorem read_startTag {tag : String} {attributes : List (String × String)}
    (tagNamed : isName tag = true) (named : ∀ attr ∈ attributes, isName attr.1 = true)
    {last : Symbol} (ends : last = .shown '/' ∨ last = .mark '>') (rest : List Symbol) :
    Place.content.read (.mark '<' :: (tag.toList.map .shown ++
        (attributesSymbols attributes ++ last :: rest))) =
      (Place.attributes tag.toList attributes).read (last :: rest) := by
  have gathers : ∀ char ∈ tag.toList, ∀ read,
      (Place.opening read).step (.shown char) = some (.opening (read ++ [char]), none) := by
    intro char member read
    obtain ⟨noSpace, noSlash, _⟩ := ne_of_isNameChar (isNameChar_of_isName tagNamed char member)
    simp [Place.step, noSpace, noSlash]
  have begins : Place.content.read (.mark '<' :: (tag.toList.map .shown ++
        (attributesSymbols attributes ++ last :: rest))) =
      (Place.opening tag.toList).read (attributesSymbols attributes ++ last :: rest) := by
    cases chars : tag.toList with
    | nil => simp [isName, String.toList_eq_nil_iff.mp chars] at tagNamed
    | cons first others =>
        rw [chars] at gathers
        obtain ⟨_, further⟩ := List.forall_mem_cons.mp gathers
        have noSlash := (ne_of_isNameChar
          (isNameChar_of_isName tagNamed first (by simp [chars]))).2.1
        have opens : Place.bracket.step (.shown first) = some (.opening [first], none) := by
          simp [Place.step]
        rw [Place.read_cons_silent rfl, List.map_cons, List.cons_append,
          Place.read_cons_silent opens, Place.read_gathered further]
        rfl
  have named' := read_attributesSymbols_append named tag.toList [] (last :: rest)
  rw [List.nil_append] at named'
  rw [begins, ← named']
  cases attributes with
  | nil => exact read_opening (.inr ends) tag.toList rest
  | cons attr attributes =>
      rw [attributesSymbols, List.cons_append]
      exact read_opening (.inl rfl) tag.toList _

/-! ## Fragments as pieces -/

mutual

def pieces : Html → List Piece
  | .text content => content.toList.map .char
  | .element tag attributes children selfClosing =>
    if selfClosing && children.isEmpty then [.selfClosing tag attributes]
    else .opening tag attributes :: (allPieces children ++ [.closing tag])

def allPieces : List Html → List Piece
  | [] => []
  | node :: nodes => pieces node ++ allPieces nodes

end

theorem read_shown_append (chars : List Char) (rest : List Symbol) :
    Place.content.read (chars.map .shown ++ rest) =
      (Place.content.read rest).map (chars.map .char ++ ·) := by
  induction chars with
  | nil => simp
  | cons char chars ih =>
      rw [List.map_cons, List.cons_append, Place.read_cons rfl, ih, Option.map_map]
      rfl

theorem read_closingTag {tag : String} (rest : List Symbol) :
    Place.content.read (.mark '<' :: .shown '/' :: (tag.toList.map .shown ++ .mark '>' :: rest)) =
      (Place.content.read rest).map (.closing tag :: ·) := by
  have gathers : ∀ char ∈ tag.toList, ∀ read,
      (Place.closing read).step (.shown char) = some (.closing (read ++ [char]), none) :=
    fun _ _ _ => rfl
  rw [Place.read_cons_silent rfl, Place.read_cons_silent rfl, Place.read_gathered gathers,
    List.nil_append, Place.read_cons rfl]
  simp

mutual

theorem read_write_append {node : Html} (named : WellNamed node) (rest : List Char) :
    Place.content.read (symbols ((write node).toList ++ rest)) =
      (Place.content.read (symbols rest)).map (pieces node ++ ·) := by
  match node, named with
  | .text content, .text =>
      rw [write, symbols_escape_append, read_shown_append, pieces]
  | .element tag attributes children selfClosing, .element tagNamed attributesNamed inside =>
      rw [write, pieces]
      split
      · have text : ("<" ++ tag ++ attributesText attributes ++ "/>").toList ++ rest =
            '<' :: (tag.toList ++ ((attributesText attributes).toList ++ '/' :: '>' :: rest)) := by
          simp
        rw [text, symbols_mark_cons (by decide), symbols_name_append tagNamed,
          symbols_attributesText_append attributesNamed, symbols_plain_cons (by decide),
          symbols_mark_cons (by decide), read_startTag tagNamed attributesNamed (.inl rfl),
          Place.read_cons_silent rfl, Place.read_cons rfl]
        simp
      · have text : ("<" ++ tag ++ attributesText attributes ++ ">" ++ writeAll children ++ "</" ++
              tag ++ ">").toList ++ rest =
            '<' :: (tag.toList ++ ((attributesText attributes).toList ++
              '>' :: ((writeAll children).toList ++
                '<' :: '/' :: (tag.toList ++ '>' :: rest)))) := by
          simp
        rw [text, symbols_mark_cons (by decide), symbols_name_append tagNamed,
          symbols_attributesText_append attributesNamed, symbols_mark_cons (by decide),
          read_startTag tagNamed attributesNamed (.inr rfl), Place.read_cons rfl,
          read_writeAll_append inside, symbols_mark_cons (by decide),
          symbols_plain_cons (by decide), symbols_name_append tagNamed,
          symbols_mark_cons (by decide), read_closingTag]
        simp [Option.map_map, Function.comp_def]

theorem read_writeAll_append {nodes : List Html} (named : ∀ node ∈ nodes, WellNamed node)
    (rest : List Char) :
    Place.content.read (symbols ((writeAll nodes).toList ++ rest)) =
      (Place.content.read (symbols rest)).map (allPieces nodes ++ ·) := by
  match nodes with
  | [] => simp [writeAll, allPieces]
  | node :: nodes =>
      obtain ⟨first, further⟩ := List.forall_mem_cons.mp named
      rw [writeAll, String.toList_append, List.append_assoc, read_write_append first,
        read_writeAll_append further, Option.map_map]
      simp [allPieces, Function.comp_def]

end

end Html

end DocPreview
