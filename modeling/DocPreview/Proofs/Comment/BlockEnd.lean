import DocPreview.Proofs.Comment.Markers
import DocPreview.Proofs.Text.Trim
import Mathlib.Data.List.Infix

/-!
# The end of a block comment

The line with the closing mark is left without it when nothing stands behind the mark on its line
and a marker, or nothing, before the text in front of it. On all other lines the mark, or at least
the slash of it, stays and becomes part of the documentation.
-/

set_option autoImplicit false

namespace DocPreview

namespace Text

theorem dropOpening?_eq_some_iff {opening chars rest : List Char} :
    dropOpening? opening chars = some rest ↔ chars = opening ++ rest := by
  induction opening generalizing chars with
  | nil => simp [dropOpening?]
  | cons first opening ih =>
      cases chars with
      | nil => simp [dropOpening?]
      | cons char chars =>
          by_cases same : first = char
          · simp [dropOpening?, same, ih]
          · simp [dropOpening?, same, Ne.symm same]

theorem dropOpening?_eq_none_iff {opening chars : List Char} :
    dropOpening? opening chars = none ↔ ¬ opening <+: chars := by
  rw [← Option.not_isSome_iff_eq_none, Option.isSome_iff_exists]
  simp only [dropOpening?_eq_some_iff]
  constructor
  · rintro none ⟨rest, same⟩
    exact none ⟨rest, same.symm⟩
  · rintro none ⟨rest, same⟩
    exact none ⟨rest, same.symm⟩

theorem suffix_getD_dropOpening? (opening chars : List Char) :
    (dropOpening? opening chars).getD chars <:+ chars := by
  cases found : dropOpening? opening chars with
  | none => exact List.suffix_refl _
  | some rest => exact ⟨opening, (dropOpening?_eq_some_iff.mp found).symm⟩

theorem trimStart_append_cons {first : Char} (shown : isBlank first = false)
    (front back : List Char) :
    trimStart (front ++ first :: back) = trimStart front ++ first :: back := by
  induction front with
  | nil => simp [trimStart, shown]
  | cons char front ih =>
      unfold trimStart at ih ⊢
      rw [List.cons_append, List.dropWhile_cons, List.dropWhile_cons]
      split
      · exact ih
      · rfl

theorem trimStart_suffix (chars : List Char) : trimStart chars <:+ chars :=
  List.dropWhile_suffix _

end Text

namespace Comment

/-! ## What is taken from one line -/

theorem dropBlockEnd_isPrefix (line : List Char) : dropBlockEnd line <+: line := by
  unfold dropBlockEnd Text.dropSuffix?
  split
  · exact List.take_prefix _ _
  · exact List.prefix_refl _

theorem dropBlockEnd_append_mark (line : List Char) :
    dropBlockEnd (line ++ ['*', '/']) = line := by
  simp [dropBlockEnd, Text.dropSuffix?]

theorem infix_of_stripBlockLine {line shown : List Char} (stripped : stripBlockLine line = some shown) :
    shown <:+: line := by
  have block : dropBlockEnd (Text.trimStart line) <:+: line :=
    (dropBlockEnd_isPrefix _).isInfix.trans (Text.trimStart_suffix line).isInfix
  unfold stripBlockLine at stripped
  cases opening : Text.dropOpening? ['/', '*', '*'] (dropBlockEnd (Text.trimStart line)) with
  | some rest =>
      have within : rest <:+ dropBlockEnd (Text.trimStart line) :=
        ⟨_, (Text.dropOpening?_eq_some_iff.mp opening).symm⟩
      simp only [opening] at stripped
      split at stripped
      · cases stripped
      · cases stripped
        exact within.isInfix.trans block
  | none =>
      simp only [opening] at stripped
      split at stripped
      · cases stripped
      · cases stripped
        cases star : Text.dropOpening? ['*'] (dropBlockEnd (Text.trimStart line)) with
        | none => exact List.infix_refl _
        | some rest =>
            exact (show rest <:+ _ from ⟨_, (Text.dropOpening?_eq_some_iff.mp star).symm⟩).isInfix.trans
              block

/-- What a line shows stands in it. -/
theorem infix_of_stripLine {dialect : Dialect} {line shown : List Char}
    (stripped : stripLine dialect line = some shown) : shown <:+: line := by
  obtain ⟨rest, within, rfl⟩ : ∃ rest, rest <:+: line ∧
      (Text.dropOpening? [' '] rest).getD rest = shown := by
    unfold stripLine at stripped
    obtain ⟨rest, found, same⟩ := Option.map_eq_some_iff.mp stripped
    refine ⟨rest, ?_, same⟩
    cases opening : Text.dropOpening? dialect.commentPrefix.toList (Text.trimStart line) with
    | some behind =>
        simp only [opening, Option.some.injEq] at found
        subst found
        have split := Text.dropOpening?_eq_some_iff.mp opening
        exact (List.IsSuffix.trans ⟨_, split.symm⟩ (Text.trimStart_suffix line)).isInfix
    | none =>
        cases dialect with
        | csharp =>
            simp only [opening] at found
            exact infix_of_stripBlockLine found
        | visualBasic =>
            simp only [opening, Option.some.injEq] at found
            subst found
            exact List.infix_refl _
  exact (Text.suffix_getD_dropOpening? _ _).isInfix.trans within

/-- A line that begins with the mark of a block shows of what follows only what is left without the
closing mark. -/
theorem suffix_of_stripLine_opening {line text kept shown : List Char}
    (begins : Text.trimStart line = ['/', '*', '*'] ++ text)
    (left : dropBlockEnd (['/', '*', '*'] ++ text) = ['/', '*', '*'] ++ kept)
    (stripped : stripLine .csharp line = some shown) : shown <:+ kept := by
  have unprefixed : Text.dropOpening? Dialect.csharp.commentPrefix.toList (['/', '*', '*'] ++ text) =
      none := rfl
  have opened : Text.dropOpening? ['/', '*', '*'] (['/', '*', '*'] ++ kept) = some kept :=
    Text.dropOpening?_eq_some_iff.mpr rfl
  simp only [stripLine, stripBlockLine, begins, unprefixed, left, opened] at stripped
  split at stripped
  · cases stripped
  · cases stripped
    exact Text.suffix_getD_dropOpening? _ _

/-! ## The line with the closing mark -/

/-- What stands before the closing mark on its line lets the mark be found: a marker comes first, or
there is nothing. -/
def BeginsMarked (front : List Char) : Prop :=
  Text.trimStart front = [] ∨ ['*'] <+: Text.trimStart front ∨
    ['/', '*', '*'] <+: Text.trimStart front

instance : DecidablePred BeginsMarked := fun front =>
  inferInstanceAs (Decidable (Text.trimStart front = [] ∨ ['*'] <+: Text.trimStart front ∨
    ['/', '*', '*'] <+: Text.trimStart front))

theorem suffix_of_stripLine_closing {front shown : List Char} (marked : BeginsMarked front)
    (stripped : stripLine .csharp (front ++ ['*', '/']) = some shown) : shown <:+ front := by
  have trimmed : Text.trimStart (front ++ ['*', '/']) = Text.trimStart front ++ ['*', '/'] :=
    Text.trimStart_append_cons (by decide) front ['/']
  rcases marked with blank | ⟨text, star⟩ | ⟨text, opening⟩
  · rw [blank] at trimmed
    simp only [stripLine, stripBlockLine, trimmed] at stripped
    cases stripped
  · rw [← star] at trimmed
    have unprefixed : Text.dropOpening? Dialect.csharp.commentPrefix.toList
        (['*'] ++ text ++ ['*', '/']) = none := rfl
    have unopened : Text.dropOpening? ['/', '*', '*'] (['*'] ++ text) = none := rfl
    have starred : Text.dropOpening? ['*'] (['*'] ++ text) = some text :=
      Text.dropOpening?_eq_some_iff.mpr rfl
    simp only [stripLine, stripBlockLine, trimmed, unprefixed, dropBlockEnd_append_mark, unopened,
      starred] at stripped
    cases stripped
    have within : text <:+ Text.trimStart front := ⟨_, star⟩
    exact (Text.suffix_getD_dropOpening? _ _).trans (within.trans (Text.trimStart_suffix front))
  · rw [← opening] at trimmed
    have left : dropBlockEnd (['/', '*', '*'] ++ (text ++ ['*', '/'])) = ['/', '*', '*'] ++ text := by
      rw [← List.append_assoc, dropBlockEnd_append_mark]
    have within : text <:+ Text.trimStart front := ⟨_, opening⟩
    exact (suffix_of_stripLine_opening (trimmed.trans (List.append_assoc _ _ _)) left stripped).trans
      (within.trans (Text.trimStart_suffix front))

section

variable {front behind : List Char}

/-- A marker that ends before the slash of the closing mark leaves the slash. -/
theorem slash_suffix_of_opening {opening rest : List Char} (short : opening.length ≤ front.length + 1)
    (split : front ++ '*' :: '/' :: behind = opening ++ rest) : '/' :: behind <:+ rest := by
  have whole : '/' :: behind <:+ opening ++ rest :=
    split ▸ (List.suffix_cons _ _).trans (List.suffix_append _ _)
  refine List.suffix_of_suffix_length_le whole (List.suffix_append _ _) ?_
  have sizes := congrArg List.length split
  simp only [List.length_append, List.length_cons] at sizes ⊢
  omega

/-- No marker of three characters begins with the closing mark or in the character before it. -/
theorem length_opening_le {opening : List Char}
    (marker : opening = ['/', '/', '/'] ∨ opening = ['/', '*', '*'])
    (begins : opening <+: front ++ '*' :: '/' :: behind) : opening.length ≤ front.length + 1 := by
  match front, marker with
  | [], .inl same | [], .inr same | [_], .inl same | [_], .inr same =>
    subst same
    simp [List.cons_prefix_cons] at begins
  | _ :: _ :: _, .inl same | _ :: _ :: _, .inr same =>
    subst same
    simp

theorem slash_suffix_dropSpace {rest : List Char} (kept : '/' :: behind <:+ rest) :
    '/' :: behind <:+ (Text.dropOpening? [' '] rest).getD rest := by
  cases space : Text.dropOpening? [' '] rest with
  | none => exact kept
  | some later =>
      obtain rfl := Text.dropOpening?_eq_some_iff.mp space
      cases List.suffix_cons_iff.mp kept with
      | inl same => cases same
      | inr within => exact within

theorem dropBlockEnd_of_behind (shown : behind ≠ []) (blank : ∀ char ∈ behind, isBlank char = true)
    (line : List Char) : dropBlockEnd (line ++ behind) = line ++ behind := by
  refine dropBlockEnd_of_not_suffix ?_
  rintro ⟨before, same⟩
  -- The last character would be blank and the slash of the mark.
  have last := congrArg List.getLast? same
  rw [List.getLast?_append_of_ne_nil _ shown, List.getLast?_append_of_ne_nil _ (by simp)] at last
  have slash : isBlank '/' = true := blank '/' (List.mem_of_getLast? last.symm)
  cases slash

/-- In front of the mark there is a text without a marker, so the line is shown as it is. -/
theorem stripBlockLine_of_unmarked (unmarked : ¬ BeginsMarked front) :
    stripBlockLine (front ++ ['*', '/']) = some (front ++ ['*', '/']) := by
  have trimmed : Text.trimStart (front ++ ['*', '/']) = Text.trimStart front ++ ['*', '/'] :=
    Text.trimStart_append_cons (by decide) front ['/']
  have left : dropBlockEnd (Text.trimStart front ++ ['*', '/']) = Text.trimStart front :=
    dropBlockEnd_append_mark _
  obtain ⟨there, unstarred, unopened⟩ := not_or.mp unmarked |>.imp_right not_or.mp
  unfold stripBlockLine
  simp only [trimmed, left, Text.dropOpening?_eq_none_iff.mpr unopened,
    Text.dropOpening?_eq_none_iff.mpr unstarred, List.isEmpty_eq_false_iff.mpr there,
    Bool.false_and, Bool.false_eq_true, ↓reduceIte, Option.getD_none]

/-- Blanks behind the mark hide it, and a marker in front of it reaches no further than its star. -/
theorem exists_stripBlockLine_of_behind (shown : behind ≠ [])
    (blank : ∀ char ∈ behind, isBlank char = true) :
    ∃ rest, stripBlockLine (front ++ '*' :: '/' :: behind) = some rest ∧
      '/' :: behind <:+ rest := by
  have trimmed : Text.trimStart (front ++ '*' :: '/' :: behind) =
      Text.trimStart front ++ '*' :: '/' :: behind :=
    Text.trimStart_append_cons (by decide) front ('/' :: behind)
  have left : dropBlockEnd (Text.trimStart front ++ '*' :: '/' :: behind) =
      Text.trimStart front ++ '*' :: '/' :: behind := by
    simpa using dropBlockEnd_of_behind shown blank (Text.trimStart front ++ ['*', '/'])
  unfold stripBlockLine
  cases opening : Text.dropOpening? ['/', '*', '*']
      (Text.trimStart front ++ '*' :: '/' :: behind) with
  | some rest =>
      have split := Text.dropOpening?_eq_some_iff.mp opening
      have kept : '/' :: behind <:+ rest :=
        slash_suffix_of_opening (length_opening_le (.inr rfl) ⟨rest, split.symm⟩) split
      have slash : rest.all isBlank = false :=
        List.all_eq_false.mpr ⟨'/', kept.subset List.mem_cons_self, by decide⟩
      refine ⟨rest, ?_, kept⟩
      simp only [trimmed, left, opening, slash, Bool.false_eq_true, ↓reduceIte]
  | none =>
      have there : (Text.trimStart front ++ '*' :: '/' :: behind).isEmpty = false := by simp
      refine ⟨(Text.dropOpening? ['*'] (Text.trimStart front ++ '*' :: '/' :: behind)).getD
        (front ++ '*' :: '/' :: behind), ?_, ?_⟩
      · simp only [trimmed, left, opening, there, Bool.false_and, Bool.false_eq_true, ↓reduceIte]
      · cases star : Text.dropOpening? ['*'] (Text.trimStart front ++ '*' :: '/' :: behind) with
        | none => exact (List.suffix_cons _ _).trans (List.suffix_append _ _)
        | some rest =>
            exact slash_suffix_of_opening (by simp) (Text.dropOpening?_eq_some_iff.mp star)

theorem stripBlockLine_closing_of_not (blank : ∀ char ∈ behind, isBlank char = true)
    (unclean : ¬ (behind = [] ∧ BeginsMarked front)) :
    ∃ rest, stripBlockLine (front ++ '*' :: '/' :: behind) = some rest ∧
      '/' :: behind <:+ rest := by
  by_cases shown : behind = []
  · subst shown
    have unmarked : ¬ BeginsMarked front := fun marked => unclean ⟨rfl, marked⟩
    exact ⟨_, stripBlockLine_of_unmarked unmarked,
      (List.suffix_cons _ _).trans (List.suffix_append _ _)⟩
  · exact exists_stripBlockLine_of_behind shown blank

/-- On a line of any other form the slash of the mark is shown, with what stands behind it. -/
theorem stripLine_closing_of_not (blank : ∀ char ∈ behind, isBlank char = true)
    (unclean : ¬ (behind = [] ∧ BeginsMarked front)) :
    ∃ shown, stripLine .csharp (front ++ '*' :: '/' :: behind) = some shown ∧
      '/' :: behind <:+ shown := by
  have trimmed : Text.trimStart (front ++ '*' :: '/' :: behind) =
      Text.trimStart front ++ '*' :: '/' :: behind :=
    Text.trimStart_append_cons (by decide) front ('/' :: behind)
  unfold stripLine
  rw [trimmed]
  cases opening : Text.dropOpening? Dialect.csharp.commentPrefix.toList
      (Text.trimStart front ++ '*' :: '/' :: behind) with
  | some rest =>
      have split := Text.dropOpening?_eq_some_iff.mp opening
      have kept : '/' :: behind <:+ rest :=
        slash_suffix_of_opening (length_opening_le (.inl rfl) ⟨rest, split.symm⟩) split
      exact ⟨_, rfl, slash_suffix_dropSpace kept⟩
  | none =>
      obtain ⟨rest, stripped, kept⟩ := stripBlockLine_closing_of_not blank unclean
      exact ⟨_, congrArg (Option.map _) stripped, slash_suffix_dropSpace kept⟩

end

/-! ## Whole comments -/

/-- A comment that is one block. The closing mark comes once, and nothing but blanks behind it. -/
structure BlockComment where
  indentation : List Char := []
  content : List Char
  trailing : List Char := []
  indentation_blank : indentation.all (fun char => isBlank char && char != '\n') = true := by decide
  closed_once : ¬ ['*', '/'] <:+: ['/', '*', '*'] ++ content := by decide
  trailing_blank : trailing.all isBlank = true := by decide

namespace BlockComment

def head (comment : BlockComment) : List Char :=
  comment.indentation ++ (['/', '*', '*'] ++ comment.content)

def raw (comment : BlockComment) : String :=
  String.ofList (comment.head ++ '*' :: '/' :: comment.trailing)

def front (comment : BlockComment) : List Char :=
  lastLine comment.head

def behind (comment : BlockComment) : List Char :=
  (Text.lines comment.trailing).headD []

/-- Nothing stands behind the closing mark on its line, and a marker or nothing in front of it. -/
def EndsCleanly (comment : BlockComment) : Prop :=
  comment.behind = [] ∧ BeginsMarked comment.front

instance : DecidablePred EndsCleanly := fun comment =>
  inferInstanceAs (Decidable (comment.behind = [] ∧ BeginsMarked comment.front))

end BlockComment

theorem lastLine_of_suffix {line chars : List Char} (whole : '\n' ∉ line)
    (ends : line = chars ∨ '\n' :: line <:+ chars) : lastLine chars = line := by
  have kept : ∀ char ∈ line.reverse, (char != '\n') = true := by
    intro char member
    rw [bne_iff_ne]
    rintro rfl
    exact whole (List.mem_reverse.mp member)
  cases ends with
  | inl same =>
      rw [← same, lastLine, List.takeWhile_eq_self_iff.mpr kept, List.reverse_reverse]
  | inr ends =>
      obtain ⟨before, rfl⟩ := ends
      rw [lastLine, List.reverse_append, List.reverse_cons, List.append_assoc,
        List.takeWhile_append_of_pos kept]
      simp

theorem flatten_filterMap_stripLine_sublist (dialect : Dialect) (lines : List (List Char)) :
    (lines.filterMap (stripLine dialect)).flatten.Sublist lines.flatten := by
  induction lines with
  | nil => exact .slnil
  | cons line lines ih =>
      cases stripped : stripLine dialect line with
      | none =>
          rw [List.filterMap_cons_none stripped, List.flatten_cons]
          exact ih.trans (List.sublist_append_right _ _)
      | some shown =>
          rw [List.filterMap_cons_some stripped, List.flatten_cons, List.flatten_cons]
          exact (infix_of_stripLine stripped).sublist.append ih

namespace BlockComment

variable {comment : BlockComment}

theorem blank_of_mem_behind (comment : BlockComment) :
    ∀ char ∈ comment.behind, isBlank char = true := by
  intro char member
  unfold behind at member
  cases split : Text.lines comment.trailing with
  | nil =>
      rw [split] at member
      cases member
  | cons line rest =>
      rw [split] at member
      have within : line <:+: comment.trailing :=
        Text.infix_of_mem_lines (split ▸ List.mem_cons_self)
      exact List.all_eq_true.mp comment.trailing_blank char (within.subset member)

/-- The line with the closing mark comes before blank lines alone. -/
theorem lines_append_closing {front : List Char} (whole : '\n' ∉ front) (comment : BlockComment) :
    Text.lines (front ++ '*' :: '/' :: comment.trailing) =
      (front ++ '*' :: '/' :: comment.behind) :: (Text.lines comment.trailing).tail := by
  have starred : '\n' ∉ front ++ ['*'] := by simp [whole]
  have split := Text.lines_append_cons starred (show isBlank '/' = false by decide)
    comment.trailing
  simpa [behind] using split

theorem whole_opening (comment : BlockComment) {text : List Char} (whole : '\n' ∉ text) :
    '\n' ∉ comment.indentation ++ (['/', '*', '*'] ++ text) := by
  have indented := Margin.no_feed ⟨comment.indentation, .feed, comment.indentation_blank⟩
  simp [whole, indented]

/-- Behind the line with the closing mark nothing but blanks is shown. -/
theorem blank_behind (comment : BlockComment) :
    ∀ text ∈ (Text.lines comment.trailing).tail.filterMap (stripLine .csharp),
      ∀ char ∈ text, isBlank char = true := by
  intro text member char inside
  obtain ⟨line, among, stripped⟩ := List.mem_filterMap.mp member
  have within : text <:+: comment.trailing :=
    (infix_of_stripLine stripped).trans (Text.infix_of_mem_lines (List.mem_of_mem_tail among))
  exact List.all_eq_true.mp comment.trailing_blank char (within.subset inside)

theorem closingLine_mem (comment : BlockComment) :
    comment.front ++ '*' :: '/' :: comment.behind ∈ Text.lines comment.raw.toList := by
  obtain ⟨earlier, last, unbroken, ends, -, -, split⟩ := Text.exists_lines_append comment.head
  have front : comment.front = last := lastLine_of_suffix unbroken ends
  rw [raw, String.toList_ofList, split, comment.lines_append_closing unbroken, front]
  exact List.mem_append_right _ List.mem_cons_self

theorem not_infix_content (comment : BlockComment) : ¬ ['*', '/'] <:+: comment.content := fun within =>
  comment.closed_once (within.trans (List.suffix_append _ _).isInfix)

end BlockComment

theorem not_infix_blanks {blanks : List Char} (blank : ∀ char ∈ blanks, isBlank char = true) :
    ¬ ['*', '/'] <:+: blanks := by
  intro within
  have star := blank '*' (within.subset List.mem_cons_self)
  cases star

/-- The lines show texts of the content, one after the other. -/
def ShowsContent (lines : List (List Char)) (content : List Char) : Prop :=
  (lines.filterMap (stripLine .csharp)).flatten.Sublist content ∧
    ∀ text ∈ lines.filterMap (stripLine .csharp), text <:+: content

namespace ShowsContent

variable {lines others : List (List Char)} {line content rest : List Char}

theorem singleton (within : ∀ shown, stripLine .csharp line = some shown → shown <:+: content) :
    ShowsContent [line] content := by
  cases stripped : stripLine .csharp line with
  | none => simp [ShowsContent, stripped]
  | some shown =>
      have inside := within shown stripped
      simp [ShowsContent, stripped, inside, inside.sublist]

theorem mono (shown : ShowsContent lines content) (within : content <:+: rest) :
    ShowsContent lines rest :=
  ⟨shown.1.trans within.sublist, fun text member => (shown.2 text member).trans within⟩

theorem append (first : ShowsContent lines content) (second : ShowsContent others rest) :
    ShowsContent (lines ++ others) (content ++ rest) := by
  unfold ShowsContent
  rw [List.filterMap_append, List.flatten_append, List.forall_mem_append]
  exact ⟨first.1.append second.1,
    (first.mono (List.prefix_append _ _).isInfix).2,
    (second.mono (List.suffix_append _ _).isInfix).2⟩

/-- Lines of the content, with a last one that shows only what is in the content. -/
theorem append_closing {earlier : List (List Char)} {last : List Char}
    (kept : (earlier.flatten ++ last).Sublist content)
    (inside : ∀ line ∈ earlier, line <:+: content) (ends : last <:+ content)
    (closing : ∀ shown, stripLine .csharp line = some shown → shown <:+ last) :
    ShowsContent (earlier ++ [line]) content := by
  have final : ShowsContent [line] last := singleton fun shown stripped =>
    (closing shown stripped).isInfix
  unfold ShowsContent
  rw [List.filterMap_append, List.flatten_append, List.forall_mem_append]
  refine ⟨.trans ?_ kept, ?_, (final.mono ends.isInfix).2⟩
  · exact (flatten_filterMap_stripLine_sublist _ _).append final.1
  · intro text member
    obtain ⟨line, original, stripped⟩ := List.mem_filterMap.mp member
    exact (infix_of_stripLine stripped).trans (inside line original)

end ShowsContent

namespace BlockComment

variable {comment : BlockComment}

theorem trimStart_indented (comment : BlockComment) (text : List Char) :
    Text.trimStart (comment.indentation ++ (['/', '*', '*'] ++ text)) = ['/', '*', '*'] ++ text :=
  trimStart_margin ⟨comment.indentation, .feed, comment.indentation_blank⟩ (by decide) _

/-- The first line of several has no closing mark that could be left. -/
theorem showsContent_opening (comment : BlockComment) {first rest : List Char}
    (content : comment.content = first ++ '\n' :: rest) :
    ShowsContent [Text.dropReturn (comment.indentation ++ (['/', '*', '*'] ++ first))] first := by
  have opened : Text.dropReturn (comment.indentation ++ (['/', '*', '*'] ++ first)) =
      comment.indentation ++ (['/', '*', '*'] ++ Text.dropReturn first) := by
    have marked := Text.dropReturn_append_cons (show '*' ≠ '\r' by decide)
      (comment.indentation ++ ['/', '*']) first
    simpa using marked
  have begins : Text.dropReturn first <+: first := Text.dropReturn_isPrefix first
  have unclosed : ¬ ['*', '/'] <:+ ['/', '*', '*'] ++ Text.dropReturn first := by
    intro closes
    refine comment.closed_once (closes.isInfix.trans ?_)
    rw [content]
    exact ((List.prefix_append_right_inj _).mpr
      (begins.trans (List.prefix_append _ _))).isInfix
  rw [opened]
  refine .singleton fun shown stripped => ?_
  exact (suffix_of_stripLine_opening (comment.trimStart_indented _)
    (dropBlockEnd_of_not_suffix unclosed) stripped).isInfix.trans begins.isInfix

/-- A block of several lines. The first and the last have a mark, those between are lines of the
content. -/
theorem exists_lines_of_feed (closed : comment.behind = []) (marked : BeginsMarked comment.front)
    (broken : '\n' ∈ comment.content) :
    ∃ lines, Text.lines (comment.head ++ '*' :: '/' :: comment.trailing) =
        lines ++ (Text.lines comment.trailing).tail ∧
      ShowsContent lines comment.content := by
  obtain ⟨first, rest, content, whole⟩ := Text.exists_feed_split broken
  obtain ⟨earlier, last, unbroken, ends, kept, inside, split⟩ := Text.exists_lines_append rest
  have head : comment.head =
      comment.indentation ++ (['/', '*', '*'] ++ first) ++ '\n' :: rest := by
    simp [BlockComment.head, content]
  have front : comment.front = last := by
    refine lastLine_of_suffix unbroken (.inr ?_)
    rw [head]
    cases ends with
    | inl same => exact same ▸ List.suffix_append _ _
    | inr ends => exact ends.trans ((List.suffix_cons _ _).trans (List.suffix_append _ _))
  have closing : ∀ shown, stripLine .csharp (last ++ ['*', '/']) = some shown →
      shown <:+ last := fun shown => suffix_of_stripLine_closing (front ▸ marked)
  -- Only the opening line can lose a carriage return here: the split of the rest has taken care of
  -- the lines between, and the last one goes on with the mark.
  refine ⟨[Text.dropReturn (comment.indentation ++ (['/', '*', '*'] ++ first))] ++
    (earlier ++ [last ++ ['*', '/']]), ?_, ?_⟩
  · have behind : comment.head ++ '*' :: '/' :: comment.trailing =
        comment.indentation ++ (['/', '*', '*'] ++ first) ++
          '\n' :: (rest ++ '*' :: '/' :: comment.trailing) := by
      simp [head]
    rw [behind, Text.lines_append_feed (comment.whole_opening whole), split,
      comment.lines_append_closing unbroken, closed]
    simp
  · rw [content]
    refine (comment.showsContent_opening content).append ?_
    exact (ShowsContent.append_closing kept inside (Text.suffix_of_last ends) closing).mono
      (List.suffix_cons _ _).isInfix

/-- A block on one line. -/
theorem exists_lines_of_no_feed (closed : comment.behind = [])
    (unbroken : '\n' ∉ comment.content) :
    ∃ lines, Text.lines (comment.head ++ '*' :: '/' :: comment.trailing) =
        lines ++ (Text.lines comment.trailing).tail ∧
      ShowsContent lines comment.content := by
  have whole : '\n' ∉ comment.head := comment.whole_opening unbroken
  refine ⟨[comment.head ++ ['*', '/']], ?_, .singleton fun shown stripped => ?_⟩
  · rw [comment.lines_append_closing whole, closed]
    rfl
  · have begins : Text.trimStart (comment.head ++ ['*', '/']) =
        ['/', '*', '*'] ++ (comment.content ++ ['*', '/']) := by
      rw [head, List.append_assoc, List.append_assoc]
      exact comment.trimStart_indented _
    have left : dropBlockEnd (['/', '*', '*'] ++ (comment.content ++ ['*', '/'])) =
        ['/', '*', '*'] ++ comment.content := by
      rw [← List.append_assoc, dropBlockEnd_append_mark]
    exact (suffix_of_stripLine_opening begins left stripped).isInfix

/-- What a cleanly ended comment shows stands in the content, apart from the blanks behind it. -/
theorem EndsCleanly.exists_lines (clean : comment.EndsCleanly) :
    ∃ lines, Text.lines comment.raw.toList = lines ++ (Text.lines comment.trailing).tail ∧
      ShowsContent lines comment.content := by
  obtain ⟨closed, marked⟩ := clean
  rw [raw, String.toList_ofList]
  by_cases broken : '\n' ∈ comment.content
  · exact exists_lines_of_feed closed marked broken
  · exact exists_lines_of_no_feed closed broken

end BlockComment

/-- A comment that ends cleanly is left without the closing mark, and nothing shows that is not in
its content. The line that ends any other comment shows the slash of the mark. -/
theorem closing_mark_removed_of_clean_end (comment : BlockComment) :
    (comment.EndsCleanly →
      ¬ ['*', '/'] <:+: (stripPrefixes .csharp comment.raw).toList ∧
      ((stripPrefixes .csharp comment.raw).toList.filter (!isBlank ·)).Sublist
        (comment.content.filter (!isBlank ·))) ∧
    (¬ comment.EndsCleanly →
      ∃ line ∈ Text.lines comment.raw.toList, ['*', '/'] <:+: line ∧
        ∃ shown, stripLine .csharp line = some shown ∧ '/' :: comment.behind <:+ shown) := by
  constructor
  · intro clean
    obtain ⟨lines, split, shows⟩ := clean.exists_lines
    have output : (stripPrefixes .csharp comment.raw).toList =
        Text.joinLines (lines.filterMap (stripLine .csharp) ++
          (Text.lines comment.trailing).tail.filterMap (stripLine .csharp)) := by
      rw [stripPrefixes, String.toList_ofList, split, List.filterMap_append]
    have behind : ∀ text ∈ (Text.lines comment.trailing).tail.filterMap (stripLine .csharp),
        ∀ char ∈ text, isBlank char = true := comment.blank_behind
    rw [output]
    constructor
    · intro within
      obtain ⟨text, member, inside⟩ :=
        Text.exists_line_of_infix_joinLines (by decide) (by decide) within
      cases List.mem_append.mp member with
      | inl shown => exact comment.not_infix_content (inside.trans (shows.2 text shown))
      | inr blank => exact not_infix_blanks (behind text blank) inside
    · rw [Text.filter_joinLines (by decide), List.flatten_append, List.filter_append]
      have nothing : ((Text.lines comment.trailing).tail.filterMap
          (stripLine .csharp)).flatten.filter (!isBlank ·) = [] := by
        rw [List.filter_eq_nil_iff]
        intro char member
        obtain ⟨text, among, inside⟩ := List.mem_flatten.mp member
        simp [behind text among char inside]
      rw [nothing, List.append_nil]
      exact shows.1.filter _
  · intro unclean
    refine ⟨_, comment.closingLine_mem, ?_,
      stripLine_closing_of_not comment.blank_of_mem_behind unclean⟩
    exact ⟨comment.front, comment.behind, by simp⟩

theorem closing_mark_removed_of_clean_end_star_line :
    let comment : BlockComment :=
      { indentation := ['\t']
        content := [' ', 'a', ' ', '/', '\r', '\n', '/', '/', '/', 'b', '\n', ' ', '*', 'c', '*']
        trailing := ['\n', ' '] }
    comment.EndsCleanly ∧ comment.raw = "\t/** a /\r\n///b\n *c**/\n " ∧
      ¬ ['*', '/'] <:+: (stripPrefixes .csharp comment.raw).toList ∧
      ((stripPrefixes .csharp comment.raw).toList.filter (!isBlank ·)).Sublist
        (comment.content.filter (!isBlank ·)) := by
  intro comment
  have clean : comment.EndsCleanly := by decide
  exact ⟨clean, rfl, (closing_mark_removed_of_clean_end comment).1 clean⟩

theorem BlockComment.stripped_raw (comment : BlockComment) :
    stripPrefixes .csharp comment.raw = String.ofList (Text.joinLines
      ((Text.lines (comment.head ++ '*' :: '/' :: comment.trailing)).filterMap
        (stripLine .csharp))) := by
  rw [stripPrefixes, raw, String.toList_ofList]

/-- The mark stays behind a blank and behind a text without a star, and half of it in front of a
blank. -/
theorem closing_mark_left_in_documentation :
    let trailed : BlockComment := { content := [' ', 'A', ' '], trailing := [' '] }
    let unstarred : BlockComment := { content := ['\n', ' ', 'A', ' '] }
    let alone : BlockComment := { content := ['\n', '*', ' ', 'A', '\n', ' '], trailing := [' '] }
    stripPrefixes .csharp trailed.raw = "A */ " ∧
      stripPrefixes .csharp unstarred.raw = "A */" ∧
      stripPrefixes .csharp alone.raw = "A\n/ " := by
  simp only [BlockComment.stripped_raw]
  exact ⟨rfl, rfl, rfl⟩

end Comment

end DocPreview
