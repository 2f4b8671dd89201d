import DocPreview.Proofs.Html.Reading

/-!
# Reading back what was written

Reading the markup of a fragment gives the fragment back, as far as markup can tell fragments
apart: neighbouring texts come back as one, empty texts not at all, and an element that holds
something is not self-closing. So no text and no attribute value can end what it stands in.
-/

set_option autoImplicit false

namespace DocPreview

namespace Html

/-! ## What markup cannot tell apart -/

/-- A text in front of nodes, as one with the text that they begin with. -/
def joinText (content : String) : List Html → List Html
  | .text next :: nodes => .text (content ++ next) :: nodes
  | nodes => if content.isEmpty then nodes else .text content :: nodes

mutual

/-- The node in front of others. An element with a child counts as not self-closing. -/
def settleBefore (nodes : List Html) : Html → List Html
  | .text content => joinText content nodes
  | .element tag attributes children selfClosing =>
    .element tag attributes (settled children) (selfClosing && children.isEmpty) :: nodes

/-- The fragment with neighbouring texts merged and empty texts dropped, at every depth. -/
def settled : List Html → List Html
  | [] => []
  | node :: nodes => settleBefore (settled nodes) node

end

theorem joinText_append (first second : String) (nodes : List Html) :
    joinText (first ++ second) nodes = joinText first (joinText second nodes) := by
  unfold joinText
  cases nodes with
  | nil => by_cases empty : second = "" <;> simp [empty]
  | cons node nodes =>
      cases node with
      | text next => simp [String.append_assoc]
      | element tag attributes children selfClosing =>
          by_cases empty : second = "" <;> simp [empty]

theorem joinText_empty (nodes : List Html) : joinText "" nodes = nodes := by
  unfold joinText
  split <;> simp

theorem writeAll_joinText (content : String) (nodes : List Html) :
    writeAll (joinText content nodes) = escape content ++ writeAll nodes := by
  unfold joinText
  split
  · simp [writeAll, write, escape, String.append_assoc]
  · split
    · rename_i empty
      simp [String.isEmpty_iff.mp empty, escape]
    · rfl

mutual

theorem writeAll_settleBefore (nodes : List Html) : ∀ node : Html,
    writeAll (settleBefore nodes node) = write node ++ writeAll nodes
  | .text content => by
      rw [settleBefore, writeAll_joinText, write]
  | .element tag attributes children selfClosing => by
      have inside := writeAll_settled children
      rw [settleBefore, writeAll, write, write, inside]
      cases children <;> simp [settled]

/-- What is settled is written as before. -/
theorem writeAll_settled : ∀ nodes : List Html, writeAll (settled nodes) = writeAll nodes
  | [] => rfl
  | node :: nodes => by
      rw [settled, writeAll_settleBefore (settled nodes) node, writeAll_settled nodes, writeAll]

end

/-! ## Building a tree -/

structure Built where
  /-- The nodes up to where the element around that point ends. -/
  nodes : List Html
  /-- The tags of the elements around that point, innermost first, with what follows each. -/
  around : List (String × List Html)

def Built.before (built : Built) : Piece → Option Built
  | .char char => some { built with nodes := joinText (String.singleton char) built.nodes }
  | .selfClosing tag attributes =>
    some { built with nodes := .element tag attributes [] true :: built.nodes }
  | .closing tag => some ⟨[], (tag, built.nodes) :: built.around⟩
  | .opening tag attributes =>
    match built.around with
    | [] => none
    | (closed, following) :: around =>
      if closed = tag then
        some ⟨.element tag attributes built.nodes false :: following, around⟩
      else none

/-- A tree is built from the end of the markup, where each closing tag begins an element. -/
def Built.ofPieces : List Piece → Option Built
  | [] => some ⟨[], []⟩
  | piece :: pieces => (ofPieces pieces).bind (·.before piece)

/-- The fragment that a markup text writes, if it is balanced. -/
def ofMarkup? (text : String) : Option (List Html) :=
  match (Place.content.read (symbols text.toList)).bind Built.ofPieces with
  | some ⟨nodes, []⟩ => some nodes
  | _ => none

theorem ofPieces_chars_append (content : String) {pieces : List Piece} {built : Built}
    (rest : Built.ofPieces pieces = some built) :
    Built.ofPieces (content.toList.map .char ++ pieces) =
      some { built with nodes := joinText content built.nodes } := by
  rw [← String.ofList_toList (s := content)]
  induction content.toList with
  | nil => simp [rest, joinText_empty]
  | cons char chars ih =>
      have text : String.ofList (char :: chars) = String.singleton char ++ String.ofList chars := by
        rw [String.singleton_eq_ofList, ← String.ofList_append]
        rfl
      rw [String.toList_ofList] at ih ⊢
      rw [List.map_cons, List.cons_append, Built.ofPieces, ih, Option.bind_some, Built.before, text,
        joinText_append]

mutual

theorem ofPieces_pieces_append (node : Html) {pieces : List Piece} {built : Built}
    (rest : Built.ofPieces pieces = some built) :
    Built.ofPieces (node.pieces ++ pieces) =
      some { built with nodes := settleBefore built.nodes node } := by
  match node with
  | .text content => exact ofPieces_chars_append content rest
  | .element tag attributes children selfClosing =>
      rw [Html.pieces]
      split
      · rename_i alone
        simp only [Bool.and_eq_true, List.isEmpty_iff] at alone
        obtain ⟨rfl, rfl⟩ := alone
        simp [Built.ofPieces, rest, Built.before, settleBefore, settled]
      · rename_i holds
        have closing : Built.ofPieces (.closing tag :: pieces) =
            some ⟨[], (tag, built.nodes) :: built.around⟩ := by
          simp [Built.ofPieces, rest, Built.before]
        have inside := ofPieces_allPieces_append children closing rfl
        simp only [List.cons_append, List.append_assoc, List.nil_append, Built.ofPieces, inside,
          Option.bind_some, Built.before, ↓reduceIte, settleBefore, holds]

theorem ofPieces_allPieces_append (nodes : List Html) {pieces : List Piece} {built : Built}
    (rest : Built.ofPieces pieces = some built) (closed : built.nodes = []) :
    Built.ofPieces (allPieces nodes ++ pieces) = some { built with nodes := settled nodes } := by
  match nodes with
  | [] => simp [allPieces, settled, rest, ← closed]
  | node :: nodes =>
      have later := ofPieces_allPieces_append nodes rest closed
      rw [allPieces, List.append_assoc, ofPieces_pieces_append node later]
      rfl

end

/-- Reading what was written gives the fragment back. -/
theorem ofMarkup?_writeAll {nodes : List Html} (named : ∀ node ∈ nodes, WellNamed node) :
    ofMarkup? (writeAll nodes) = some (settled nodes) := by
  have read := read_writeAll_append named []
  have built := ofPieces_allPieces_append nodes
    (show Built.ofPieces [] = some ⟨[], []⟩ from rfl) rfl
  rw [List.append_nil] at read built
  simp [ofMarkup?, read, symbols, Place.read, built]

/-- Two fragments are written alike exactly when they are the same up to what markup cannot tell
apart, and in what is written an escaped text can be read off and holds no mark. -/
theorem writeAll_faithful :
    (∀ left right : List Html, (∀ node ∈ left, WellNamed node) → (∀ node ∈ right, WellNamed node) →
      (writeAll left = writeAll right ↔ settled left = settled right)) ∧
    Function.Injective escape ∧
    ∀ text : String, unescape (escape text) = text ∧
      ∀ char ∈ (escape text).toList, char ≠ '<' ∧ char ≠ '>' ∧ char ≠ '"' := by
  refine ⟨?_, Function.LeftInverse.injective unescape_escape, ?_⟩
  · intro left right leftNamed rightNamed
    constructor
    · intro same
      have read := ofMarkup?_writeAll leftNamed
      rw [same, ofMarkup?_writeAll rightNamed] at read
      exact (Option.some.inj read).symm
    · intro same
      rw [← writeAll_settled left, same, writeAll_settled right]
  · intro text
    refine ⟨unescape_escape text, ?_⟩
    intro char member
    simpa [isMark, and_assoc] using isMark_of_mem_escape text char member

/-- A text that looks like markup, once in two pieces and once whole. -/
theorem writeAll_faithful_hostile_text :
    let attributes := [("title", "\"><b>&amp;")]
    let left := [Html.element "p" attributes [.text "</p", .text "", .text "><b>"] true]
    let right := [Html.element "p" attributes [.text "</p><b>"] false]
    (∀ node ∈ left, WellNamed node) ∧ (∀ node ∈ right, WellNamed node) ∧
      writeAll left = writeAll right ∧ settled left = settled right := by
  intro attributes left right
  have leftNamed : ∀ node ∈ left, WellNamed node := by
    simp only [left, List.forall_mem_singleton]
    refine .element (by decide) (by decide) ?_
    simp only [List.forall_mem_cons]
    exact ⟨.text, .text, .text, by simp⟩
  have rightNamed : ∀ node ∈ right, WellNamed node := by
    simp only [right, List.forall_mem_singleton]
    refine .element (by decide) (by decide) ?_
    simp only [List.forall_mem_singleton]
    exact .text
  have same : settled left = settled right := by
    rfl
  exact ⟨leftNamed, rightNamed,
    (writeAll_faithful.1 left right leftNamed rightNamed).mpr same, same⟩

end Html

end DocPreview
