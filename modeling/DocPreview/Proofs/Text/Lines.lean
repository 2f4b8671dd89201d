import DocPreview.Text.Lines
import Mathlib.Data.List.Basic
import Mathlib.Data.List.Induction

/-!
# Lines

The first line feed ends the first line, whatever stands behind it. What holds no line feed and does
not end in a carriage return stays within one line.
-/

set_option autoImplicit false

namespace DocPreview

namespace Text

theorem dropReturn_append_return (line : List Char) : dropReturn (line ++ ['\r']) = line := by
  simp [dropReturn]

theorem dropReturn_of_getLast?_ne {line : List Char} (open_ : line.getLast? ≠ some '\r') :
    dropReturn line = line := by
  unfold dropReturn
  split
  · rename_i rest reversed
    have last : line.getLast? = some '\r' := by
      rw [← List.head?_reverse, reversed]
      rfl
    exact absurd last open_
  · rfl

theorem lines_of_no_feed {line : List Char} (nonempty : line ≠ []) (whole : '\n' ∉ line) :
    lines line = [line] := by
  rw [lines, List.splitOn_eq_singleton whole]
  simp [ofSegments, nonempty]

/-- The first line feed ends the first line, whatever follows it. -/
theorem lines_append_feed {line : List Char} (whole : '\n' ∉ line) (rest : List Char) :
    lines (line ++ '\n' :: rest) = dropReturn line :: lines rest := by
  rw [lines, lines, List.splitOn_append_cons_self_of_not_mem whole]
  cases segments : rest.splitOn '\n' with
  | nil => exact absurd segments (List.splitOn_ne_nil _ _)
  | cons next more => rfl

theorem exists_feed_split {chars : List Char} (broken : '\n' ∈ chars) :
    ∃ line rest, chars = line ++ '\n' :: rest ∧ '\n' ∉ line := by
  induction chars with
  | nil => cases broken
  | cons char chars ih =>
      by_cases feed : char = '\n'
      · exact ⟨[], chars, by rw [feed]; rfl, List.not_mem_nil⟩
      · have later : '\n' ∈ chars := (List.mem_cons.mp broken).resolve_left (Ne.symm feed)
        obtain ⟨line, rest, rfl, whole⟩ := ih later
        refine ⟨char :: line, rest, rfl, fun member => ?_⟩
        cases List.mem_cons.mp member with
        | inl first => exact feed first.symm
        | inr inside => exact whole inside

/-- A text is taken apart line feed by line feed. -/
@[elab_as_elim]
theorem feed_induction {motive : List Char → Prop} (chars : List Char)
    (last : ∀ line, '\n' ∉ line → motive line)
    (feed : ∀ line rest, '\n' ∉ line → motive rest → motive (line ++ '\n' :: rest)) :
    motive chars := by
  induction measured : chars.length using Nat.strongRecOn generalizing chars with
  | _ size ih =>
      by_cases broken : '\n' ∈ chars
      · obtain ⟨line, rest, rfl, whole⟩ := exists_feed_split broken
        have shorter : rest.length < size := by
          simp only [List.length_append, List.length_cons] at measured
          omega
        exact feed line rest whole (ih rest.length shorter rest rfl)
      · exact last chars broken

/-- A carriage return at the end is no loss to a part that does not end in one. -/
theorem infix_dropReturn {part line : List Char} (closed : part.getLast? ≠ some '\r')
    (within : part <:+: line) : part <:+: dropReturn line := by
  by_cases ended : line.getLast? = some '\r'
  · obtain ⟨front, back, rfl⟩ := within
    cases back using List.reverseRecOn with
    | nil =>
        rw [List.append_nil] at ended ⊢
        cases part using List.reverseRecOn with
        | nil => exact List.nil_infix
        | append_singleton part last =>
            rw [← List.append_assoc, List.getLast?_concat] at ended
            rw [List.getLast?_concat] at closed
            exact absurd ended closed
    | append_singleton back last =>
        rw [← List.append_assoc, List.getLast?_concat] at ended
        cases ended
        rw [← List.append_assoc, dropReturn_append_return]
        exact ⟨front, back, rfl⟩
  · rw [dropReturn_of_getLast?_ne ended]
    exact within

/-- A part that holds no line break stands within one line. By induction on what is before it, a
line at a time. -/
theorem exists_line_of_infix {part chars : List Char} (nonempty : part ≠ []) (whole : '\n' ∉ part)
    (closed : part.getLast? ≠ some '\r') (within : part <:+: chars) :
    ∃ line ∈ lines chars, part <:+: line := by
  obtain ⟨front, back, rfl⟩ := within
  induction front using feed_induction with
  | last front before =>
      by_cases behind : '\n' ∈ back
      · obtain ⟨ending, rest, rfl, unbroken⟩ := exists_feed_split behind
        have first : '\n' ∉ front ++ part ++ ending := by
          simp only [List.mem_append, not_or]
          exact ⟨⟨before, whole⟩, unbroken⟩
        refine ⟨dropReturn (front ++ part ++ ending), ?_,
          infix_dropReturn closed ⟨front, ending, rfl⟩⟩
        rw [← List.append_assoc, lines_append_feed first]
        exact List.mem_cons_self
      · have single : '\n' ∉ front ++ part ++ back := by
          simp only [List.mem_append, not_or]
          exact ⟨⟨before, whole⟩, behind⟩
        refine ⟨front ++ part ++ back, ?_, ⟨front, back, rfl⟩⟩
        rw [lines_of_no_feed (by simp [nonempty]) single]
        exact List.mem_cons_self
  | feed first later unbroken ih =>
      obtain ⟨line, member, inside⟩ := ih
      refine ⟨line, ?_, inside⟩
      rw [List.append_assoc, List.append_assoc, List.cons_append, lines_append_feed unbroken,
        ← List.append_assoc]
      exact List.mem_cons_of_mem _ member

/-! ## The lines of an append -/

theorem dropReturn_isPrefix (line : List Char) : dropReturn line <+: line := by
  by_cases ended : line.getLast? = some '\r'
  · obtain ⟨front, rfl⟩ := List.getLast?_eq_some_iff.mp ended
    rw [dropReturn_append_return]
    exact List.prefix_append _ _
  · exact ⟨[], by rw [List.append_nil, dropReturn_of_getLast?_ne ended]⟩

theorem dropReturn_append_cons {last : Char} (shown : last ≠ '\r') (front line : List Char) :
    dropReturn (front ++ last :: line) = front ++ last :: dropReturn line := by
  cases line using List.reverseRecOn with
  | nil =>
      rw [dropReturn_of_getLast?_ne (by simpa using shown)]
      rfl
  | append_singleton line char =>
      by_cases ended : char = '\r'
      · subst ended
        rw [← List.cons_append, ← List.append_assoc, dropReturn_append_return,
          dropReturn_append_return]
      · have last_ne : ∀ begun : List Char, (begun ++ [char]).getLast? ≠ some '\r' := by
          intro begun
          simpa using ended
        rw [dropReturn_of_getLast?_ne (last_ne line), ← List.cons_append, ← List.append_assoc,
          dropReturn_of_getLast?_ne (last_ne _)]

/-- The text behind the last line feed begins the line that what follows goes on with. -/
theorem exists_lines_append (chars : List Char) :
    ∃ (earlier : List (List Char)) (last : List Char), '\n' ∉ last ∧
      (last = chars ∨ '\n' :: last <:+ chars) ∧ (earlier.flatten ++ last).Sublist chars ∧
      (∀ line ∈ earlier, line <:+: chars) ∧
      ∀ behind, lines (chars ++ behind) = earlier ++ lines (last ++ behind) := by
  induction chars using feed_induction with
  | last chars unbroken =>
      exact ⟨[], chars, unbroken, .inl rfl, List.Sublist.refl _,
        fun _ member => absurd member List.not_mem_nil, fun _ => rfl⟩
  | feed line rest whole ih =>
      obtain ⟨earlier, last, unbroken, ends, kept, inside, split⟩ := ih
      have later : rest <:+ line ++ '\n' :: rest :=
        (List.suffix_cons _ _).trans (List.suffix_append _ _)
      refine ⟨dropReturn line :: earlier, last, unbroken, .inr ?_, ?_, ?_, ?_⟩
      · cases ends with
        | inl whole => exact whole ▸ List.suffix_append _ _
        | inr ends => exact ends.trans later
      · rw [List.flatten_cons, List.append_assoc]
        exact (dropReturn_isPrefix line).sublist.append (kept.cons _)
      · rw [List.forall_mem_cons]
        exact ⟨((dropReturn_isPrefix line).trans (List.prefix_append _ _)).isInfix,
          fun other member => (inside other member).trans later.isInfix⟩
      · intro behind
        rw [List.append_assoc, List.cons_append, lines_append_feed whole, split,
          List.cons_append]

theorem suffix_of_last {last chars : List Char} (ends : last = chars ∨ '\n' :: last <:+ chars) :
    last <:+ chars := by
  cases ends with
  | inl same => exact same ▸ List.suffix_refl _
  | inr ends => exact (List.suffix_cons _ _).trans ends

theorem infix_of_mem_lines {line chars : List Char} (member : line ∈ lines chars) :
    line <:+: chars := by
  obtain ⟨earlier, last, unbroken, ends, -, inside, split⟩ := exists_lines_append chars
  have whole := split []
  rw [List.append_nil, List.append_nil] at whole
  rw [whole, List.mem_append] at member
  cases member with
  | inl before => exact inside line before
  | inr final =>
      by_cases empty : last = []
      · rw [empty] at final
        cases final
      · rw [lines_of_no_feed empty unbroken, List.mem_singleton] at final
        exact final ▸ (suffix_of_last ends).isInfix

/-- What follows a shown character goes on with its line up to the first line break. -/
theorem lines_append_cons {front : List Char} {last : Char} (whole : '\n' ∉ front)
    (shown : isBlank last = false) (behind : List Char) :
    lines (front ++ last :: behind) =
      (front ++ last :: (lines behind).headD []) :: (lines behind).tail := by
  have noFeed : last ≠ '\n' := by
    rintro rfl
    cases shown
  have noReturn : last ≠ '\r' := by
    rintro rfl
    cases shown
  by_cases broken : '\n' ∈ behind
  · obtain ⟨line, rest, rfl, unbroken⟩ := exists_feed_split broken
    have first : '\n' ∉ front ++ last :: line := by
      simp [whole, unbroken, noFeed.symm]
    rw [← List.cons_append, ← List.append_assoc, lines_append_feed first,
      dropReturn_append_cons noReturn, lines_append_feed unbroken]
    rfl
  · have single : '\n' ∉ front ++ last :: behind := by
      simp [whole, broken, noFeed.symm]
    rw [lines_of_no_feed (by simp) single]
    by_cases empty : behind = []
    · subst empty
      rfl
    · rw [lines_of_no_feed empty broken]
      rfl

/-! ## Joined lines -/

theorem infix_append_cons {part front back : List Char} {char : Char} (absent : char ∉ part)
    (within : part <:+: front ++ char :: back) : part <:+: front ∨ part <:+: back := by
  obtain ⟨before, behind, same⟩ := within
  rcases List.append_eq_append_iff.mp same with ⟨rest, rfl, -⟩ | ⟨rest, begun, split⟩
  · exact .inl ⟨before, rest, rfl⟩
  cases rest with
  | nil => exact .inl ⟨before, [], by rw [List.append_nil] at begun ⊢; exact begun⟩
  | cons first rest =>
      obtain ⟨rfl, rfl⟩ := List.cons.inj split
      rcases List.append_eq_append_iff.mp begun with ⟨inner, -, rfl⟩ | ⟨inner, -, split⟩
      · exact absurd (List.mem_append_right inner List.mem_cons_self) absent
      cases inner with
      | nil =>
          have begins : char :: rest = part := split
          exact absurd (begins ▸ List.mem_cons_self) absent
      | cons first inner =>
          obtain ⟨rfl, rfl⟩ := List.cons.inj split
          exact .inr ⟨inner, behind, rfl⟩

/-- What holds no line feed stands within one of the lines that are joined. -/
theorem exists_line_of_infix_joinLines {part : List Char} {joined : List (List Char)}
    (nonempty : part ≠ []) (whole : '\n' ∉ part) (within : part <:+: joinLines joined) :
    ∃ line ∈ joined, part <:+: line := by
  induction joined with
  | nil => exact absurd (List.infix_nil.mp within) nonempty
  | cons line rest ih =>
      cases rest with
      | nil => exact ⟨line, List.mem_cons_self, by simpa [joinLines] using within⟩
      | cons next rest =>
          rw [joinLines, List.intercalate_cons_cons, List.append_assoc, List.singleton_append]
            at within
          cases infix_append_cons whole within with
          | inl first => exact ⟨line, List.mem_cons_self, first⟩
          | inr later =>
              obtain ⟨found, member, inside⟩ := ih later
              exact ⟨found, List.mem_cons_of_mem _ member, inside⟩

/-- A character of joined pieces stands in the separator or in a piece. -/
theorem mem_intercalate {char : Char} {separator : List Char} {pieces : List (List Char)}
    (member : char ∈ List.intercalate separator pieces) :
    char ∈ separator ∨ ∃ piece ∈ pieces, char ∈ piece := by
  induction pieces with
  | nil => cases member
  | cons piece rest ih =>
      cases rest with
      | nil =>
          rw [List.intercalate_singleton] at member
          exact .inr ⟨piece, List.mem_cons_self, member⟩
      | cons next rest =>
          rw [List.intercalate_cons_cons, List.mem_append, List.mem_append] at member
          rcases member with (here | between) | later
          · exact .inr ⟨piece, List.mem_cons_self, here⟩
          · exact .inl between
          · cases ih later with
            | inl between => exact .inl between
            | inr inside =>
                obtain ⟨found, foundMember, inFound⟩ := inside
                exact .inr ⟨found, List.mem_cons_of_mem piece foundMember, inFound⟩

theorem mem_joinLines {char : Char} {joined : List (List Char)} (member : char ∈ joinLines joined) :
    char = '\n' ∨ ∃ line ∈ joined, char ∈ line :=
  (mem_intercalate member).imp_left List.mem_singleton.mp

theorem filter_joinLines {shows : Char → Bool} (feed : shows '\n' = false)
    (joined : List (List Char)) :
    (joinLines joined).filter shows = joined.flatten.filter shows := by
  induction joined with
  | nil => rfl
  | cons line rest ih =>
      cases rest with
      | nil => simp [joinLines]
      | cons next rest =>
          rw [joinLines] at ih ⊢
          rw [List.intercalate_cons_cons, List.filter_append, List.filter_append, ih,
            List.flatten_cons, List.filter_append]
          simp [feed]

/-- Joined lines are read back as they are when no line holds a part of a line break and the last
one is there at all. -/
theorem lines_joinLines {joined : List (List Char)} (noFeed : ∀ line ∈ joined, '\n' ∉ line)
    (noReturn : ∀ line ∈ joined, line.getLast? ≠ some '\r')
    (lastShows : joined.getLast? ≠ some []) : lines (joinLines joined) = joined := by
  induction joined with
  | nil => rfl
  | cons line rest ih =>
      obtain ⟨wholeFirst, wholeRest⟩ := List.forall_mem_cons.mp noFeed
      obtain ⟨closedFirst, closedRest⟩ := List.forall_mem_cons.mp noReturn
      cases rest with
      | nil =>
          have nonempty : line ≠ [] := by
            rintro rfl
            exact lastShows rfl
          rw [joinLines, List.intercalate_singleton]
          exact lines_of_no_feed nonempty wholeFirst
      | cons next rest =>
          rw [List.getLast?_cons_cons] at lastShows
          have later := ih wholeRest closedRest lastShows
          rw [joinLines] at later ⊢
          rw [List.intercalate_cons_cons, List.append_assoc, List.singleton_append,
            lines_append_feed wholeFirst, later, dropReturn_of_getLast?_ne closedFirst]

/-! ## What lines keep -/

theorem dropReturn_cases (line : List Char) :
    dropReturn line = line ∨ line = dropReturn line ++ ['\r'] := by
  by_cases ended : line.getLast? = some '\r'
  · obtain ⟨front, rfl⟩ := List.getLast?_eq_some_iff.mp ended
    rw [dropReturn_append_return]
    exact .inr rfl
  · exact .inl (dropReturn_of_getLast?_ne ended)

theorem filter_dropReturn {shows : Char → Bool} (return_ : shows '\r' = false)
    (line : List Char) : (dropReturn line).filter shows = line.filter shows := by
  cases dropReturn_cases line with
  | inl same => rw [same]
  | inr ended =>
      conv_rhs => rw [ended, List.filter_append]
      simp [return_]

theorem no_feed_of_mem_lines {line chars : List Char} (member : line ∈ lines chars) :
    '\n' ∉ line := by
  induction chars using feed_induction with
  | last chars whole =>
      cases chars with
      | nil => cases member
      | cons char chars =>
          rw [lines_of_no_feed (List.cons_ne_nil _ _) whole, List.mem_singleton] at member
          exact member ▸ whole
  | feed first rest whole ih =>
      rw [lines_append_feed whole, List.mem_cons] at member
      cases member with
      | inl here =>
          intro feed
          exact whole ((dropReturn_isPrefix first).subset (here ▸ feed))
      | inr later => exact ih later

theorem filter_lines {shows : Char → Bool} (feed : shows '\n' = false)
    (return_ : shows '\r' = false) (chars : List Char) :
    (lines chars).flatten.filter shows = chars.filter shows := by
  induction chars using feed_induction with
  | last chars whole =>
      cases chars with
      | nil => rfl
      | cons char chars =>
          rw [lines_of_no_feed (List.cons_ne_nil _ _) whole, List.flatten_singleton]
  | feed line rest whole ih =>
      rw [lines_append_feed whole, List.flatten_cons, List.filter_append, ih,
        filter_dropReturn return_, List.filter_append, List.filter_cons, feed]
      rfl

end Text

end DocPreview
