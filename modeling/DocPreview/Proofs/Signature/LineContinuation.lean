import DocPreview.Proofs.Signature.Makeup

/-!
# Lines that go on

In `visualBasic` a mark stands before every line break inside a statement, and nowhere else. Only
the lines of the accessors of a property begin without one, behind all the rest. In `csharp` there
is no such mark.
-/

set_option autoImplicit false

namespace DocPreview

def Token.isContinuation (token : Token) : Bool :=
  token.tokenClass == .continuation

def Token.isLineBreak (token : Token) : Bool :=
  token.tokenClass == .lineBreak

theorem Token.plain_of_isWord {token : Token} (isWord : token.isWord) :
    token.isContinuation = false ∧ token.isLineBreak = false := by
  obtain ⟨tokenClass, text⟩ := token
  cases tokenClass <;> first | exact ⟨rfl, rfl⟩ | cases isWord

namespace Signature

/-- The mark that a line goes on and the line break stand only together. -/
structure Continued (tokens : List Token) : Prop where
  followed : EachFollowedBy Token.isContinuation Token.isLineBreak tokens
  preceded : EachPrecededBy Token.isLineBreak Token.isContinuation tokens

theorem continued_nil : Continued [] := ⟨trivial, trivial⟩

theorem Continued.append {left right : List Token} (before : Continued left)
    (behind : Continued right) : Continued (left ++ right) :=
  ⟨before.followed.append behind.followed, before.preceded.append behind.preceded⟩

theorem continued_plain {token : Token} (noMark : token.isContinuation = false)
    (noBreak : token.isLineBreak = false) : Continued [token] :=
  ⟨eachFollowedBy_of_none (List.forall_mem_singleton.mpr noMark),
    eachPrecededBy_of_none (List.forall_mem_singleton.mpr noBreak)⟩

theorem Phrase.continued {pieces : List Piece} (phrase : Phrase .visualBasic pieces)
    (spaced : Bool) : Continued (layOut spaced pieces) := by
  have mark : ∀ text, Continued [⟨.punctuation, text⟩] := fun _ => continued_plain rfl rfl
  have blank : Continued [⟨.space, " "⟩] := continued_plain rfl rfl
  -- Only the rule for wrapped lines writes the mark or a line break, and it writes both.
  induction phrase generalizing spaced with
  | nil => exact continued_nil
  | append _ _ leftIH rightIH =>
      rw [layOut_append]
      exact (leftIH spaced).append (rightIH _)
  | @word tokenClass text isWord =>
      have plain := @Token.plain_of_isWord ⟨tokenClass, text⟩ isWord
      have word := continued_plain plain.1 plain.2
      exact holds_layOut_word continued_nil word (blank.append word) spaced
  | separator _ => exact mark _
  | spaced _ _ ih => exact blank.append (ih false)
  | wrapped =>
      exact ⟨⟨fun _ => ⟨⟨.lineBreak, "\n"⟩, rfl, rfl⟩, nofun, trivial⟩,
        ⟨fun _ => ⟨⟨.continuation, " _"⟩, rfl, rfl⟩, nofun, trivial⟩⟩
  | indent => exact continued_plain rfl rfl
  | bracketed _ closed _ ih =>
      rw [layOut_append, layOut_append]
      refine .append (.append (mark _) (ih _)) ?_
      obtain rfl | rfl := closed
      · exact mark _
      · exact blank.append (mark _)

/-! ## Whole signatures -/

theorem countP_accessorLine (word : Keyword) :
    (accessorLine word).countP Token.isLineBreak = 1 := by
  unfold accessorLine
  cases word.spelling? .visualBasic <;> rfl

theorem tokens_render_csharp (declaration : Declaration) :
    ∀ token ∈ (render declaration .csharp).tokens, token.isContinuation = false := by
  have marks : ∀ token ∈ markTokens .csharp, token.isContinuation = false := by decide
  intro token member
  by_cases written : render declaration .csharp = placeholder
  · rw [written] at member
    obtain rfl := List.mem_singleton.mp member
    rfl
  · obtain ⟨expressible, body, found⟩ := exists_body?_of_ne_placeholder written
    obtain ⟨isWord, -⟩ | mark := mem_tokens_render expressible found member
    · exact (Token.plain_of_isWord isWord).1
    · exact marks token mark

/-- In `visualBasic` every mark that a line goes on has a line break right behind it, and every line
break has such a mark right before it, but for those that begin the lines of the accessors: one
for each of them, behind all the rest. In `csharp` there is no such mark. -/
theorem line_breaks_continued (declaration : Declaration) :
    (render declaration .visualBasic ≠ placeholder →
      EachFollowedBy Token.isContinuation Token.isLineBreak
          (render declaration .visualBasic).tokens ∧
        ∃ main,
          (render declaration .visualBasic).tokens =
            main ++ (accessorsOf declaration.kind).flatMap accessorLine ∧
          EachPrecededBy Token.isLineBreak Token.isContinuation main ∧
          (∀ last ∈ main.getLast?, last.isContinuation = false) ∧
          ((accessorsOf declaration.kind).flatMap accessorLine).countP Token.isLineBreak =
            (accessorsOf declaration.kind).length) ∧
      ∀ token ∈ (render declaration .csharp).tokens, token.isContinuation = false := by
  refine ⟨fun written => ?_, tokens_render_csharp declaration⟩
  obtain ⟨expressible, body, found⟩ := exists_body?_of_ne_placeholder written
  obtain ⟨main, phrase, signature⟩ := exists_phrase expressible found
  have continued := phrase.continued false
  have tokens : (render declaration .visualBasic).tokens =
      layOut false main ++ (accessorsOf declaration.kind).flatMap accessorLine := by
    rw [signature, ofPieces, layOut_append, layOut_accessorLines]
  have lines : EachFollowedBy Token.isContinuation Token.isLineBreak
      ((accessorsOf declaration.kind).flatMap accessorLine) := by
    refine eachFollowedBy_of_none fun token member => ?_
    have classes := accessorLines_classes _ token member
    cases found : token.tokenClass <;> simp_all [Token.isContinuation]
  refine ⟨?_, layOut false main, tokens, continued.preceded, continued.followed.last, ?_⟩
  · rw [tokens]
    exact continued.followed.append lines
  · simp [List.countP_flatMap, Function.comp_def, countP_accessorLine]

theorem line_breaks_continued_indexer :
    let item : Declaration :=
      { name := "Item", kind := .property true true, memberType := "string",
        attributes := [⟨"Obsolete", [⟨none, "true"⟩]⟩],
        parameters := [{ name := "row", type := "int" }, { name := "column", type := "int" }] }
    render item .visualBasic ≠ placeholder ∧
      EachFollowedBy Token.isContinuation Token.isLineBreak
        (render item .visualBasic).tokens ∧
      ∃ main,
        (render item .visualBasic).tokens =
          main ++ (accessorLine .getWord ++ accessorLine .setWord) ∧
        EachPrecededBy Token.isLineBreak Token.isContinuation main := by
  intro item
  have written : render item .visualBasic ≠ placeholder := by decide
  obtain ⟨followed, main, tokens, preceded, -⟩ := (line_breaks_continued item).1 written
  exact ⟨written, followed, main, tokens, preceded⟩

end Signature

end DocPreview
