import DocPreview.Proofs.Signature.Makeup

/-!
# Spaces and brackets in a signature

However little a declaration says, its signature has no empty token, no two words without something
between them, no space but before a word or punctuation, and properly nested brackets.
-/

set_option autoImplicit false

namespace DocPreview

def Token.isSpace (token : Token) : Bool :=
  token.tokenClass == .space

def Token.isShown (token : Token) : Bool :=
  token.isWord || token.tokenClass == .punctuation

/-- The closing brackets that are awaited behind a token, innermost first; none when the token
closes another bracket than the innermost open one. -/
def readBracket (awaited : List String) (token : Token) : Option (List String) :=
  if token.tokenClass ≠ .punctuation then some awaited
  else
    match bracketPairs.lookup token.text with
    | some closing => some (closing :: awaited)
    | none =>
      if token.text ∈ bracketPairs.map (·.2) then
        match awaited with
        | innermost :: outer => if innermost = token.text then some outer else none
        | [] => none
      else some awaited

/-- Every bracket is closed by its own counterpart, the innermost first. -/
def ProperlyNested (tokens : List Token) : Prop :=
  tokens.foldlM readBracket [] = some []

/-- Reading the tokens leaves the same brackets open as before. -/
def Balanced (tokens : List Token) : Prop :=
  ∀ awaited, tokens.foldlM readBracket awaited = some awaited

theorem balanced_nil : Balanced [] := fun _ => rfl

theorem Balanced.append {left right : List Token} (first : Balanced left)
    (second : Balanced right) : Balanced (left ++ right) := by
  intro awaited
  rw [List.foldlM_append, first awaited]
  exact second awaited

theorem readBracket_of_plain {token : Token} (plain : token.tokenClass ≠ .punctuation)
    (awaited : List String) : readBracket awaited token = some awaited :=
  if_pos plain

theorem balanced_of_plain {tokens : List Token}
    (plain : ∀ token ∈ tokens, token.tokenClass ≠ .punctuation) : Balanced tokens := by
  intro awaited
  induction tokens with
  | nil => rfl
  | cons token tokens ih =>
      have first : token.tokenClass ≠ .punctuation := plain token List.mem_cons_self
      rw [List.foldlM_cons, readBracket_of_plain first]
      exact ih fun later member => plain later (List.mem_cons_of_mem _ member)

theorem balanced_separator {text : String} (separator : text ∈ separators) :
    Balanced [⟨.punctuation, text⟩] := by
  have noBracket : bracketPairs.lookup text = none ∧ text ∉ bracketPairs.map (·.2) := by
    revert text
    decide
  intro awaited
  simp [readBracket, noBracket]

/-- The opening bracket awaits its counterpart, which is the next to close once the inner ones
are. -/
theorem Balanced.inBrackets {inner : List Token} (balanced : Balanced inner)
    {opening closing : String} (pair : (opening, closing) ∈ bracketPairs) :
    Balanced ([⟨.punctuation, opening⟩] ++ inner ++ [⟨.punctuation, closing⟩]) := by
  have brackets : ∀ pair ∈ bracketPairs, bracketPairs.lookup pair.1 = some pair.2 ∧
      bracketPairs.lookup pair.2 = none ∧ pair.2 ∈ bracketPairs.map (·.2) := by decide
  obtain ⟨opens, noOpening, closes⟩ := brackets _ pair
  intro awaited
  have opened : readBracket awaited ⟨.punctuation, opening⟩ = some (closing :: awaited) := by
    simp [readBracket, opens]
  have closed : readBracket (closing :: awaited) ⟨.punctuation, closing⟩ = some awaited := by
    simp only [readBracket, noOpening, closes, ne_eq, not_true_eq_false, ↓reduceIte]
  rw [List.foldlM_append, List.foldlM_append, List.foldlM_cons, opened]
  simp [balanced (closing :: awaited), closed]

namespace Signature

variable {dialect : Dialect} {pieces : List Piece}

theorem Phrase.balanced (phrase : Phrase dialect pieces) (spaced : Bool) :
    Balanced (layOut spaced pieces) := by
  have blank : Balanced [⟨.space, " "⟩] := balanced_of_plain (by decide)
  -- Brackets come in pairs around a phrase, and nothing else opens or closes one.
  induction phrase generalizing spaced with
  | nil => exact balanced_nil
  | append _ _ leftIH rightIH =>
      rw [layOut_append]
      exact (leftIH spaced).append (rightIH _)
  | @word tokenClass text isWord =>
      have plain : tokenClass ≠ .punctuation := by
        rintro rfl
        cases isWord
      have word : Balanced [⟨tokenClass, text⟩] :=
        balanced_of_plain (List.forall_mem_singleton.mpr plain)
      exact holds_layOut_word balanced_nil word (blank.append word) spaced
  | separator separator => exact balanced_separator separator
  | spaced _ _ ih => exact blank.append (ih false)
  | wrapped => exact balanced_of_plain (by cases dialect <;> cases spaced <;> decide)
  | indent => exact balanced_of_plain (by cases spaced <;> decide)
  | @bracketed opening closing inner _ pair closed _ ih =>
      rw [layOut_append, layOut_append]
      obtain rfl | rfl := closed
      · exact (ih _).inBrackets pair
      · have whole := ((ih (Token.mk .punctuation opening).callsForSpace).append blank).inBrackets
          pair
        rw [← List.append_assoc, List.append_assoc] at whole
        exact whole

/-! ## Spaces -/

theorem head_layOut_of_startsShown (starts : startsShown pieces) :
    ∃ next ∈ (layOut false pieces).head?, next.isShown := by
  cases pieces with
  | nil => cases starts
  | cons piece pieces =>
      cases piece with
      | word tokenClass text =>
          obtain ⟨isWord, shown⟩ := (Bool.and_eq_true_iff).mp starts
          have present : ¬text.isEmpty := by simpa using shown
          refine ⟨⟨tokenClass, text⟩, ?_, ?_⟩
          · simp [layOut, present]
          · simp [Token.isShown, Token.isWord, isWord]
      | mark tokenClass text =>
          refine ⟨⟨tokenClass, text⟩, rfl, ?_⟩
          simp only [Token.isShown, Bool.or_eq_true]
          exact .inr starts

theorem Phrase.spaces_followed (phrase : Phrase dialect pieces) (spaced : Bool) :
    EachFollowedBy Token.isSpace Token.isShown (layOut spaced pieces) := by
  have mark : ∀ text,
      EachFollowedBy Token.isSpace Token.isShown [⟨.punctuation, text⟩] := fun _ => ⟨nofun, trivial⟩
  -- A space is followed within the rule that writes it, so appending keeps the statement.
  induction phrase generalizing spaced with
  | nil => trivial
  | append _ _ leftIH rightIH =>
      rw [layOut_append]
      exact (leftIH spaced).append (rightIH _)
  | @word tokenClass text isWord =>
      have noSpace : Token.isSpace ⟨tokenClass, text⟩ = false := by
        cases tokenClass <;> first | rfl | cases isWord
      have shown : Token.isShown ⟨tokenClass, text⟩ := by simp [Token.isShown, Token.isWord, isWord]
      have word : EachFollowedBy Token.isSpace Token.isShown [⟨tokenClass, text⟩] :=
        eachFollowedBy_of_none (List.forall_mem_singleton.mpr noSpace)
      exact holds_layOut_word trivial word ⟨fun _ => ⟨_, rfl, shown⟩, word⟩ spaced
  | separator _ => exact mark _
  | spaced starts _ ih => exact ⟨fun _ => head_layOut_of_startsShown starts, ih false⟩
  | wrapped =>
      exact eachFollowedBy_of_none (by cases dialect <;> cases spaced <;> decide)
  | indent => exact eachFollowedBy_of_none (by cases spaced <;> decide)
  | bracketed _ closed _ ih =>
      rw [layOut_append, layOut_append]
      refine .append (.append (mark _) (ih _)) ?_
      obtain rfl | rfl := closed
      · exact mark _
      · exact ⟨fun _ => ⟨_, rfl, rfl⟩, mark _⟩

/-! ## Whole signatures -/

/-- How the tokens of a signature stand together. -/
structure WellLaid (tokens : List Token) : Prop where
  noneEmpty : ∀ token ∈ tokens, token.text ≠ ""
  wordsApart : tokens.IsChain fun token next => ¬(token.isWord ∧ next.isWord)
  spacesFollowed : EachFollowedBy Token.isSpace Token.isShown tokens
  spacesApart : tokens.IsChain fun token next => ¬(token.isSpace ∧ next.isSpace)
  noSpaceAtEnd : ∀ last ∈ tokens.getLast?, last.isSpace = false
  nested : ProperlyNested tokens

theorem not_isSpace_of_isShown {token : Token} (shown : token.isShown) : ¬token.isSpace := by
  intro space
  obtain ⟨tokenClass, text⟩ := token
  obtain rfl : tokenClass = .space := by simpa [Token.isSpace] using space
  cases shown

/-- A space that something else follows is neither before another one nor at the end. -/
theorem wellLaid_of_spacesFollowed {tokens : List Token}
    (noneEmpty : ∀ token ∈ tokens, token.text ≠ "")
    (wordsApart : tokens.IsChain fun token next => ¬(token.isWord ∧ next.isWord))
    (spacesFollowed : EachFollowedBy Token.isSpace Token.isShown tokens)
    (nested : ProperlyNested tokens) : WellLaid tokens where
  noneEmpty := noneEmpty
  wordsApart := wordsApart
  spacesFollowed := spacesFollowed
  spacesApart := spacesFollowed.isChain.imp fun _ _ followed both =>
    not_isSpace_of_isShown (followed both.1) both.2
  noSpaceAtEnd := spacesFollowed.last
  nested := nested

theorem text_ne_empty_of_mem_markTokens : ∀ token ∈ markTokens dialect, token.text ≠ "" := by
  cases dialect <;> decide

theorem isWord_of_isKnown_mark {tokenClass : TokenClass} {text : String}
    (known : isKnown dialect (.mark tokenClass text)) : tokenClass.isWord = false := by
  have marks : ∀ token ∈ markTokens dialect, token.isWord = false := by cases dialect <;> decide
  exact marks _ (of_decide_eq_true known)

theorem wellLaid_placeholder : WellLaid placeholder.tokens :=
  wellLaid_of_spacesFollowed (by decide) (.singleton _) ⟨nofun, trivial⟩ rfl

/-- However little a declaration says, no token of its signature is empty, no two words are next to
each other, every space has a word or punctuation right behind it, and the brackets are properly
nested. -/
theorem tokens_wellLaid (declaration : Declaration) (dialect : Dialect) :
    WellLaid (render declaration dialect).tokens := by
  by_cases written : render declaration dialect = placeholder
  · rw [written]
    exact wellLaid_placeholder
  · obtain ⟨expressible, body, found⟩ := exists_body?_of_ne_placeholder written
    obtain ⟨main, phrase, signature⟩ := exists_phrase expressible found
    have known : ∀ piece ∈ main ++ accessorLines dialect declaration.kind,
        isKnown dialect piece :=
      List.forall_mem_append.mpr ⟨phrase.known, known_accessorLines declaration.kind⟩
    have tokens : (render declaration dialect).tokens =
        layOut false main ++ layOut (spacedAfter false main)
          (accessorLines dialect declaration.kind) := by
      rw [signature, ofPieces, layOut_append]
    have lines := layOut_accessorLines_classes dialect declaration.kind (spacedAfter false main)
    refine wellLaid_of_spacesFollowed ?_ ?_ ?_ ?_
    · intro token member
      exact (mem_tokens_render expressible found member).elim And.right
        (text_ne_empty_of_mem_markTokens token)
    · rw [signature]
      exact (layOut_words_apart (fun _ _ member => isWord_of_isKnown_mark (known _ member)) false).1
    · rw [tokens]
      refine (phrase.spaces_followed false).append (eachFollowedBy_of_none fun token member => ?_)
      have classes := lines token member
      cases found : token.tokenClass <;> simp_all [Token.isSpace]
    · rw [tokens]
      refine (phrase.balanced false).append (balanced_of_plain fun token member => ?_) []
      have classes := lines token member
      rintro punctuation
      rw [punctuation] at classes
      revert classes
      decide

end Signature

end DocPreview
