import Mathlib.Data.List.Chain
import DocPreview.Proofs.Signature.Layout

/-!
# Tokens next to each other

Statements about the tokens right behind or right before those of one sort. They hold of two
lists one after the other when they hold of each. Laying out pieces never puts two words next to
each other, as long as no mark is a word.
-/

set_option autoImplicit false

namespace DocPreview

/-- Every item of the first sort has one of the second right behind it. -/
def EachFollowedBy {α : Type} (first second : α → Bool) : List α → Prop
  | [] => True
  | item :: rest =>
    (first item → ∃ next ∈ rest.head?, second next) ∧ EachFollowedBy first second rest

/-- Every item of the second sort has one of the first right before it. -/
def EachPrecededBy {α : Type} (second first : α → Bool) (items : List α) : Prop :=
  EachFollowedBy second first items.reverse

section

variable {α : Type} {first second : α → Bool}

theorem EachFollowedBy.append {left right : List α}
    (before : EachFollowedBy first second left) (behind : EachFollowedBy first second right) :
    EachFollowedBy first second (left ++ right) := by
  induction left with
  | nil => exact behind
  | cons item left ih =>
      obtain ⟨followed, rest⟩ := before
      refine ⟨fun sort => ?_, ih rest⟩
      obtain ⟨next, member, sortNext⟩ := followed sort
      cases left with
      | nil => cases member
      | cons head left => exact ⟨next, member, sortNext⟩

theorem EachPrecededBy.append {left right : List α}
    (before : EachPrecededBy second first left) (behind : EachPrecededBy second first right) :
    EachPrecededBy second first (left ++ right) := by
  unfold EachPrecededBy
  rw [List.reverse_append]
  exact EachFollowedBy.append behind before

theorem eachFollowedBy_of_none {items : List α} (none : ∀ item ∈ items, first item = false) :
    EachFollowedBy first second items := by
  induction items with
  | nil => trivial
  | cons item items ih =>
      refine ⟨fun sort => ?_, ih fun later member => none later (List.mem_cons_of_mem _ member)⟩
      rw [none item List.mem_cons_self] at sort
      cases sort

theorem eachPrecededBy_of_none {items : List α} (none : ∀ item ∈ items, second item = false) :
    EachPrecededBy second first items :=
  eachFollowedBy_of_none fun item member => none item (List.mem_reverse.mp member)

theorem EachFollowedBy.isChain {items : List α} (followed : EachFollowedBy first second items) :
    items.IsChain fun item next => first item → second next := by
  induction items with
  | nil => exact .nil
  | cons item items ih =>
      refine List.isChain_cons.mpr ⟨fun next member sort => ?_, ih followed.2⟩
      obtain ⟨found, present, sortFound⟩ := followed.1 sort
      exact Option.mem_unique present member ▸ sortFound

/-- What must be followed is not the last. -/
theorem EachFollowedBy.last {items : List α} (followed : EachFollowedBy first second items) :
    ∀ last ∈ items.getLast?, first last = false := by
  induction items with
  | nil =>
      intro last member
      cases member
  | cons item items ih =>
      intro last member
      cases items with
      | nil =>
          obtain rfl : item = last := by simpa using member
          cases sort : first item with
          | false => rfl
          | true =>
              obtain ⟨next, absent, -⟩ := followed.1 sort
              cases absent
      | cons next items =>
          rw [List.getLast?_cons_cons] at member
          exact ih followed.2 last member

end

/-! ## Laid-out pieces -/

/-- Apart from the spaces that set words off, every token is that of a piece. -/
theorem mem_layOut {spaced : Bool} {pieces : List Piece} {token : Token}
    (member : token ∈ layOut spaced pieces) :
    token = ⟨.space, " "⟩ ∨ ∃ piece ∈ pieces, piece.token? = some token := by
  by_cases blank : token = ⟨.space, " "⟩
  · exact .inl blank
  · have chosen : token ∈ (layOut spaced pieces).filter (· != ⟨.space, " "⟩) :=
      List.mem_filter.mpr ⟨member, by simpa using blank⟩
    rw [filter_layOut (by simp)] at chosen
    exact .inr (List.mem_filterMap.mp (List.mem_filter.mp chosen).1)

/-- A single word is laid out as nothing, as itself, or behind a space. -/
theorem holds_layOut_word {holds : List Token → Prop} {tokenClass : TokenClass} {text : String}
    (nothing : holds []) (alone : holds [⟨tokenClass, text⟩])
    (setOff : holds [⟨.space, " "⟩, ⟨tokenClass, text⟩]) (spaced : Bool) :
    holds (layOut spaced [.word tokenClass text]) := by
  by_cases empty : text.isEmpty
  · simpa only [layOut, empty, ↓reduceIte] using nothing
  · simp only [layOut, empty, Bool.false_eq_true, ↓reduceIte]
    cases spaced with
    | false => exact alone
    | true => exact setOff

def Token.isWord (token : Token) : Bool :=
  token.tokenClass.isWord

theorem isChain_words_apart_cons {token : Token} {rest : List Token}
    (apart : rest.IsChain fun token next => ¬(token.isWord ∧ next.isWord))
    (first : token.isWord → ∀ next ∈ rest.head?, next.isWord = false) :
    (token :: rest).IsChain fun token next => ¬(token.isWord ∧ next.isWord) := by
  refine List.isChain_cons.mpr ⟨fun next member both => ?_, apart⟩
  rw [first both.1 next member] at both
  cases both.2

theorem layOut_words_apart {pieces : List Piece}
    (marks : ∀ tokenClass text, .mark tokenClass text ∈ pieces → tokenClass.isWord = false)
    (spaced : Bool) :
    (layOut spaced pieces).IsChain (fun token next => ¬(token.isWord ∧ next.isWord)) ∧
      (spaced → ∀ token ∈ (layOut spaced pieces).head?, token.isWord = false) := by
  -- A space is called for behind every word, and where one is called for, no word comes first.
  induction pieces generalizing spaced with
  | nil => exact ⟨.nil, fun _ token member => by cases member⟩
  | cons piece pieces ih =>
      have rest := ih fun tokenClass text member =>
        marks tokenClass text (List.mem_cons_of_mem _ member)
      cases piece with
      | mark tokenClass text =>
          have plain : (Token.mk tokenClass text).isWord = false :=
            marks tokenClass text List.mem_cons_self
          refine ⟨isChain_words_apart_cons (rest _).1 (by simp [plain]), fun _ token first => ?_⟩
          obtain rfl : Token.mk tokenClass text = token := by simpa [layOut] using first
          exact plain
      | word tokenClass text =>
          by_cases empty : text.isEmpty
          · simpa only [layOut, empty, ↓reduceIte] using rest spaced
          · have behind : (Token.mk tokenClass text ::
                layOut (Token.mk tokenClass text).callsForSpace pieces).IsChain
                  (fun token next => ¬(token.isWord ∧ next.isWord)) := by
              refine isChain_words_apart_cons (rest _).1 fun isWord => (rest _).2 ?_
              simpa [Token.callsForSpace, Token.isWord] using Or.inl isWord
            cases spaced with
            | false =>
                simp only [layOut, empty, Bool.false_eq_true, ↓reduceIte, List.nil_append]
                exact ⟨behind, fun spaced => by cases spaced⟩
            | true =>
                simp only [layOut, empty, Bool.false_eq_true, ↓reduceIte, List.cons_append,
                  List.nil_append]
                refine ⟨isChain_words_apart_cons behind fun isWord => ?_, fun _ token first => ?_⟩
                · cases isWord
                · obtain rfl : Token.mk .space " " = token := by simpa using first
                  rfl

end DocPreview
