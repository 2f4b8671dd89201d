import DocPreview.Proofs.Comment.CodeBlock
import Mathlib.Data.String.Basic

/-!
# The layout of a code block

Taking the shared indentation off is a cut in every line, at a byte where a character begins. The
lines that show something keep their characters and their places relative to each other, and the
layout that comes out is its own layout.
-/

set_option autoImplicit false

namespace DocPreview.CodeBlock

/-! ## Tabs -/

def expanded (tabSize : Option Nat) (chars : List Char) : List Char :=
  match tabSize with
  | some size => expandChars size chars
  | none => chars

theorem toList_format (tabSize : Option Nat) (text : String) :
    (format tabSize text).toList =
      Text.joinLines (formatLines (Text.lines (expanded tabSize text.toList))) := by
  cases tabSize with
  | none => rw [format, String.toList_ofList, expanded]
  | some size => rw [format, String.toList_ofList, expanded]

theorem filter_expandFrom (size column : Nat) (chars : List Char) :
    (expandFrom size column chars).filter (!isBlank ·) = chars.filter (!isBlank ·) := by
  induction chars generalizing column with
  | nil => rfl
  | cons char chars ih =>
      by_cases tab : char = '\t'
      · subst tab
        have spaces : ∀ char ∈ List.replicate (size - column % size) ' ', isBlank char = true := by
          intro char member
          rw [List.eq_of_mem_replicate member]
          decide
        have blank : isBlank '\t' = true := by decide
        simp [expandFrom, ih, Text.filter_of_blanks spaces, blank]
      · by_cases feed : char = '\n'
        · subst feed
          have blank : isBlank '\n' = true := by decide
          simp [expandFrom, ih, blank]
        · simp [expandFrom, tab, feed, List.filter_cons, ih]

theorem filter_expanded (tabSize : Option Nat) (chars : List Char) :
    (expanded tabSize chars).filter (!isBlank ·) = chars.filter (!isBlank ·) := by
  cases tabSize with
  | none => rfl
  | some size =>
      rw [expanded, expandChars]
      split
      · rfl
      · exact filter_expandFrom size 0 chars

theorem no_tab_expandFrom (size column : Nat) (chars : List Char) :
    '\t' ∉ expandFrom size column chars := by
  induction chars generalizing column with
  | nil => exact List.not_mem_nil
  | cons char chars ih =>
      by_cases tab : char = '\t'
      · simp [expandFrom, tab, ih]
      · by_cases feed : char = '\n'
        · simp [expandFrom, feed, ih]
        · simp [expandFrom, tab, feed, ih, Ne.symm tab]

/-- What is made of expanded characters needs no expansion. -/
theorem expanded_of_subset {tabSize : Option Nat} (chars : List Char) {made : List Char}
    (within : ∀ char ∈ made, char = '\n' ∨ char ∈ expanded tabSize chars) :
    expanded tabSize made = made := by
  cases tabSize with
  | none => rfl
  | some size =>
      by_cases zero : size = 0
      · rw [expanded, expandChars, if_pos zero]
      · rw [expanded, expandChars, if_neg zero]
        refine expandFrom_of_no_tab ?_ size 0
        intro tab
        cases within _ tab with
        | inl feed => cases feed
        | inr member =>
            rw [expanded, expandChars, if_neg zero] at member
            exact no_tab_expandFrom size 0 chars member

/-! ## Cuts -/

def charIndices : (byte : Nat) → List Char → List (Nat × Char)
  | _, [] => []
  | byte, char :: chars => (byte, char) :: charIndices (byte + char.utf8Size) chars

/-- The byte that the character of this number begins at, or the end of a shorter line. -/
def cutOffset (count : Nat) (line : List Char) : Nat :=
  match (charIndices 0 line)[count]? with
  | some (byte, _) => byte
  | none => String.utf8Len line

/-- The characters from a byte on; none when the byte is inside a character or behind the end. -/
def fromByte? : (byte : Nat) → List Char → Option (List Char)
  | 0, chars => some chars
  | _ + 1, [] => none
  | byte + 1, char :: chars =>
    if char.utf8Size ≤ byte + 1 then fromByte? (byte + 1 - char.utf8Size) chars else none

theorem fromByte?_utf8Len (front back : List Char) :
    fromByte? (String.utf8Len front) (front ++ back) = some back := by
  induction front with
  | nil =>
      rw [List.nil_append]
      cases back <;> rfl
  | cons char front ih =>
      have positive := char.utf8Size_pos
      have length := String.utf8Len_cons char front
      obtain ⟨byte, split⟩ : ∃ byte, String.utf8Len (char :: front) = byte + 1 :=
        Nat.exists_eq_succ_of_ne_zero (by omega)
      have left : byte + 1 - char.utf8Size = String.utf8Len front := by omega
      rw [split, List.cons_append, fromByte?, if_pos (by omega), left, ih]

theorem getElem?_charIndices (byte count : Nat) (line : List Char) :
    ((charIndices byte line)[count]?).map Prod.fst =
      if count < line.length then some (byte + String.utf8Len (line.take count)) else none := by
  induction line generalizing byte count with
  | nil => rfl
  | cons char line ih =>
      cases count with
      | zero => simp [charIndices]
      | succ count =>
          simp only [charIndices, List.getElem?_cons_succ, ih, List.length_cons,
            Nat.add_lt_add_iff_right, List.take_succ_cons, String.utf8Len_cons,
            Nat.add_assoc, Nat.add_comm char.utf8Size]

theorem cutOffset_eq (count : Nat) (line : List Char) :
    cutOffset count line = String.utf8Len (line.take count) := by
  have found := getElem?_charIndices 0 count line
  unfold cutOffset
  split
  · rename_i byte char here
    rw [here, Option.map_some] at found
    split at found
    · have same := Option.some.inj found
      rwa [Nat.zero_add] at same
    · cases found
  · rename_i absent
    rw [absent, Option.map_none] at found
    split at found
    · cases found
    · rename_i short
      rw [List.take_of_length_le (Nat.le_of_not_lt short)]

theorem fromByte?_cutOffset (count : Nat) (line : List Char) :
    fromByte? (cutOffset count line) line = some (line.drop count) := by
  have cut := fromByte?_utf8Len (line.take count) (line.drop count)
  rwa [List.take_append_drop, ← cutOffset_eq] at cut

/-- The layout by cuts at bytes; none when a line has no character that begins at its byte, nor its
end there. -/
def formatByBytes? (tabSize : Option Nat) (text : String) : Option String :=
  let body := trimLines (Text.lines (expanded tabSize text.toList))
  let shown := body.mapM fun line =>
    (fromByte? (cutOffset (sharedIndentation body) line) line).map Text.trimEnd
  shown.map fun lines => String.ofList (Text.joinLines lines)

theorem formatByBytes?_eq (tabSize : Option Nat) (text : String) :
    formatByBytes? tabSize text = some (format tabSize text) := by
  rw [← String.ofList_toList (s := format tabSize text), toList_format]
  simp only [formatByBytes?, fromByte?_cutOffset, Option.map_some]
  rw [← Option.pure_def, List.mapM_pure]
  rfl

/-! ## Lines that show something -/

theorem isBlankLine_iff {line : List Char} :
    isBlankLine line = true ↔ line.filter (!isBlank ·) = [] := by
  simp [isBlankLine, List.filter_eq_nil_iff]

theorem isBlankLine_congr {first second : List Char}
    (same : first.filter (!isBlank ·) = second.filter (!isBlank ·)) :
    isBlankLine first = isBlankLine second := by
  rw [Bool.eq_iff_iff, isBlankLine_iff, isBlankLine_iff, same]

theorem filter_dropWhile_isBlankLine (lines : List (List Char)) :
    (lines.dropWhile isBlankLine).filter (!isBlankLine ·) = lines.filter (!isBlankLine ·) := by
  have dropped : (lines.takeWhile isBlankLine).filter (!isBlankLine ·) = [] := by
    rw [List.filter_eq_nil_iff]
    intro line member
    rw [List.mem_takeWhile_imp member]
    exact Bool.false_ne_true
  conv_rhs => rw [← List.takeWhile_append_dropWhile (p := isBlankLine) (l := lines)]
  rw [List.filter_append, dropped, List.nil_append]

theorem filter_trimLines (lines : List (List Char)) :
    (trimLines lines).filter (!isBlankLine ·) = lines.filter (!isBlankLine ·) := by
  rw [trimLines, List.filter_reverse, filter_dropWhile_isBlankLine, List.filter_reverse,
    List.reverse_reverse, filter_dropWhile_isBlankLine]

/-- Blank lines hold nothing that shows. -/
theorem filter_flatten_filter (lines : List (List Char)) :
    (lines.filter (!isBlankLine ·)).flatten.filter (!isBlank ·) =
      lines.flatten.filter (!isBlank ·) := by
  induction lines with
  | nil => rfl
  | cons line lines ih =>
      rw [List.flatten_cons, List.filter_append, ← ih]
      by_cases blank : isBlankLine line = true
      · simp [blank, isBlankLine_iff.mp blank]
      · simp [blank]

/-! ## Indentation -/

theorem indentation_append {front : List Char} (shown : isBlankLine front = false)
    (back : List Char) : indentation (front ++ back) = indentation front := by
  obtain ⟨char, member, notBlank⟩ := List.all_eq_false.mp shown
  induction front with
  | nil => cases member
  | cons first front ih =>
      unfold indentation at ih ⊢
      rw [List.cons_append, List.takeWhile_cons, List.takeWhile_cons]
      by_cases blank : isBlank first = true
      · have later : char ∈ front := by
          cases List.mem_cons.mp member with
          | inl here => exact absurd (here ▸ blank) notBlank
          | inr later => exact later
        have shownLater : isBlankLine front = false :=
          List.all_eq_false.mpr ⟨char, later, notBlank⟩
        rw [if_pos blank, if_pos blank, List.length_cons, List.length_cons, ih shownLater later]
      · rw [if_neg blank, if_neg blank]

/-- What is cut off is blank. -/
theorem isBlank_of_mem_take {line : List Char} {count : Nat}
    (within : isBlankLine line = false → count ≤ indentation line) {char : Char}
    (member : char ∈ line.take count) : isBlank char = true := by
  by_cases blank : isBlankLine line = true
  · exact List.all_eq_true.mp blank char (List.mem_of_mem_take member)
  · have short := within (Bool.not_eq_true _ ▸ blank)
    rw [← List.takeWhile_append_dropWhile (p := isBlank) (l := line),
      List.take_append_of_le_length short] at member
    exact List.mem_takeWhile_imp (List.mem_of_mem_take member)

theorem filter_cut {line : List Char} {count : Nat}
    (within : isBlankLine line = false → count ≤ indentation line) :
    (Text.trimEnd (line.drop count)).filter (!isBlank ·) = line.filter (!isBlank ·) := by
  have off : (line.take count).filter (!isBlank ·) = [] :=
    Text.filter_of_blanks fun char member => isBlank_of_mem_take within member
  conv_rhs => rw [← List.take_append_drop count line, List.filter_append, off, List.nil_append]
  exact Text.filter_trimEnd _

theorem indentation_drop {line : List Char} {count : Nat} (within : count ≤ indentation line) :
    indentation (line.drop count) + count = indentation line := by
  have rest : (line.dropWhile isBlank).takeWhile isBlank = [] := by
    cases left : line.dropWhile isBlank with
    | nil => rfl
    | cons first rest =>
        have stops := List.head?_dropWhile_not isBlank line
        rw [left] at stops
        rw [List.takeWhile_cons, if_neg (by rw [stops]; exact Bool.false_ne_true)]
  have blank : ∀ char ∈ (line.takeWhile isBlank).drop count, isBlank char = true := by
    intro char member
    exact List.mem_takeWhile_imp (List.mem_of_mem_drop member)
  unfold indentation at within ⊢
  conv_lhs =>
    rw [← List.takeWhile_append_dropWhile (p := isBlank) (l := line),
      List.drop_append_of_le_length within, List.takeWhile_append_of_pos blank, rest,
      List.append_nil, List.length_drop]
  omega

theorem indentation_cut {line : List Char} {count : Nat} (shown : isBlankLine line = false)
    (within : count ≤ indentation line) :
    indentation (Text.trimEnd (line.drop count)) + count = indentation line := by
  have kept : isBlankLine (Text.trimEnd (line.drop count)) = false :=
    (isBlankLine_congr (filter_cut fun _ => within)).trans shown
  obtain ⟨back, split, _⟩ := Text.exists_blanks_behind_trimEnd (line.drop count)
  have same := indentation_append kept back
  rw [← split] at same
  rw [← same, indentation_drop within]

theorem exists_indentation_eq_shared {lines : List (List Char)}
    (some_ : ∃ line ∈ lines, isBlankLine line = false) :
    ∃ line ∈ lines, isBlankLine line = false ∧ indentation line = sharedIndentation lines := by
  obtain ⟨line, member, shown⟩ := some_
  have candidate : indentation line ∈ (lines.filter (!isBlankLine ·)).map indentation :=
    List.mem_map_of_mem (List.mem_filter.mpr ⟨member, by rw [shown]; rfl⟩)
  cases least : ((lines.filter (!isBlankLine ·)).map indentation).min? with
  | none =>
      rw [List.min?_eq_none_iff.mp least] at candidate
      cases candidate
  | some count =>
      obtain ⟨found, foundMember, rfl⟩ := List.mem_map.mp (List.min?_mem least)
      obtain ⟨within, foundShown⟩ := List.mem_filter.mp foundMember
      refine ⟨found, within, ?_, ?_⟩
      · rwa [Bool.not_eq_eq_eq_not, Bool.not_true] at foundShown
      · rw [sharedIndentation, least, Option.getD_some]

/-! ## Laid out lines -/

structure IsLaidOut (lines : List (List Char)) : Prop where
  first_shown : ∀ line ∈ lines.head?, isBlankLine line = false
  last_shown : ∀ line ∈ lines.getLast?, isBlankLine line = false
  trimmed : ∀ line ∈ lines, ∀ last ∈ line.getLast?, isBlank last = false
  /-- Some line begins with what it shows. -/
  flush : lines ≠ [] → ∃ line ∈ lines, isBlankLine line = false ∧ indentation line = 0

section

variable (lines : List (List Char))

theorem sharedIndentation_within {line : List Char} (member : line ∈ trimLines lines) :
    isBlankLine line = false → sharedIndentation (trimLines lines) ≤ indentation line :=
  sharedIndentation_le member

theorem isBlankLine_cut {line : List Char} (member : line ∈ trimLines lines) :
    isBlankLine (Text.trimEnd (line.drop (sharedIndentation (trimLines lines)))) =
      isBlankLine line :=
  isBlankLine_congr (filter_cut (sharedIndentation_within lines member))

theorem filter_flatten_formatLines :
    (formatLines lines).flatten.filter (!isBlank ·) = lines.flatten.filter (!isBlank ·) := by
  have cut : (formatLines lines).map (List.filter (!isBlank ·)) =
      (trimLines lines).map (List.filter (!isBlank ·)) := by
    rw [formatLines, List.map_map]
    exact List.map_congr_left fun line member =>
      filter_cut (sharedIndentation_within lines member)
  rw [List.filter_flatten, cut, ← List.filter_flatten, ← filter_flatten_filter, filter_trimLines,
    filter_flatten_filter]

/-- The lines that show something move by one and the same number of places. -/
theorem map_indentation_formatLines :
    (lines.filter (!isBlankLine ·)).map indentation =
      ((formatLines lines).filter (!isBlankLine ·)).map
        (indentation · + sharedIndentation (trimLines lines)) := by
  have same : (trimLines lines).filter ((!isBlankLine ·) ∘ fun line =>
      Text.trimEnd (line.drop (sharedIndentation (trimLines lines)))) =
        (trimLines lines).filter (!isBlankLine ·) :=
    List.filter_congr fun line member => congrArg not (isBlankLine_cut lines member)
  rw [← filter_trimLines, formatLines, List.filter_map, same, List.map_map]
  refine List.map_congr_left fun line member => ?_
  obtain ⟨inBody, shown⟩ := List.mem_filter.mp member
  rw [Bool.not_eq_eq_eq_not, Bool.not_true] at shown
  exact (indentation_cut shown (sharedIndentation_le inBody shown)).symm

theorem formatLines_isLaidOut : IsLaidOut (formatLines lines) := by
  have ends : (∀ line ∈ (trimLines lines).head?, isBlankLine line = false) ∧
      ∀ line ∈ (trimLines lines).getLast?, isBlankLine line = false :=
    ⟨fun _ first => Text.of_mem_head?_rdropWhile first,
      fun _ last => Text.of_mem_getLast?_rdropWhile last⟩
  refine ⟨?_, ?_, ?_, ?_⟩
  · intro line first
    rw [formatLines, List.head?_map] at first
    obtain ⟨original, found, rfl⟩ := Option.map_eq_some_iff.mp first
    rw [isBlankLine_cut lines (List.mem_of_head? found)]
    exact ends.1 original found
  · intro line last
    rw [formatLines, List.getLast?_map] at last
    obtain ⟨original, found, rfl⟩ := Option.map_eq_some_iff.mp last
    rw [isBlankLine_cut lines (List.mem_of_getLast? found)]
    exact ends.2 original found
  · intro line member last final
    obtain ⟨original, _, rfl⟩ := List.mem_map.mp member
    rw [Text.trimEnd_eq_rdropWhile] at final
    exact Text.of_mem_getLast?_rdropWhile final
  · intro nonempty
    obtain ⟨first, begins⟩ : ∃ first, (trimLines lines).head? = some first := by
      cases body : trimLines lines with
      | nil =>
          rw [formatLines, body] at nonempty
          exact absurd rfl nonempty
      | cons first rest => exact ⟨first, rfl⟩
    obtain ⟨line, member, shown, least⟩ := exists_indentation_eq_shared
      ⟨first, List.mem_of_head? begins, ends.1 first begins⟩
    refine ⟨_, List.mem_map_of_mem member, (isBlankLine_cut lines member).trans shown, ?_⟩
    have moved := indentation_cut shown (sharedIndentation_le member shown)
    omega

end

theorem IsLaidOut.trimLines_eq {lines : List (List Char)} (laidOut : IsLaidOut lines) :
    trimLines lines = lines := by
  have front : lines.dropWhile isBlankLine = lines := by
    cases lines with
    | nil => rfl
    | cons first lines =>
        rw [List.dropWhile_cons, if_neg (by simp [laidOut.first_shown first rfl])]
  have back : lines.rdropWhile isBlankLine = lines := by
    rw [List.rdropWhile_eq_self_iff]
    intro nonempty
    rw [laidOut.last_shown _ (List.getLast?_eq_getLast_of_ne_nil nonempty)]
    exact Bool.false_ne_true
  rw [trimLines, front]
  exact back

/-- Laid out lines stay as they are. -/
theorem IsLaidOut.formatLines_eq {lines : List (List Char)} (laidOut : IsLaidOut lines) :
    formatLines lines = lines := by
  have noShift : sharedIndentation lines = 0 := by
    cases lines with
    | nil => rfl
    | cons first rest =>
        obtain ⟨line, member, shown, flush⟩ := laidOut.flush (List.cons_ne_nil first rest)
        have least := sharedIndentation_le member shown
        omega
  have whole : ∀ line ∈ lines, Text.trimEnd (line.drop 0) = line := by
    intro line member
    rw [List.drop_zero, Text.trimEnd_eq_rdropWhile, List.rdropWhile_eq_self_iff]
    intro nonempty
    rw [laidOut.trimmed line member _ (List.getLast?_eq_getLast_of_ne_nil nonempty)]
    exact Bool.false_ne_true
  rw [formatLines, laidOut.trimLines_eq, noShift]
  exact (List.map_congr_left whole).trans (List.map_id lines)

/-! ## Lines of the text and of the block -/

/-- The carriage return of a line break neither shows nor indents. -/
theorem map_indentation_lines (chars : List Char) :
    ((chars.splitOn '\n').filter (!isBlankLine ·)).map indentation =
      ((Text.lines chars).filter (!isBlankLine ·)).map indentation := by
  induction chars using Text.feed_induction with
  | last chars whole =>
      rw [List.splitOn_eq_singleton whole]
      cases chars with
      | nil => rfl
      | cons char chars => rw [Text.lines_of_no_feed (List.cons_ne_nil _ _) whole]
  | feed line rest whole ih =>
      have same : isBlankLine (Text.dropReturn line) = isBlankLine line :=
        isBlankLine_congr (Text.filter_dropReturn (by decide) line)
      rw [List.splitOn_append_cons_self_of_not_mem whole, Text.lines_append_feed whole,
        List.filter_cons, List.filter_cons, same]
      by_cases blank : isBlankLine line = true
      · simp only [blank, Bool.not_true, Bool.false_eq_true, ↓reduceIte, ih]
      · have indented : indentation line = indentation (Text.dropReturn line) := by
          cases Text.dropReturn_cases line with
          | inl whole => rw [whole]
          | inr ended =>
              have shown : isBlankLine (Text.dropReturn line) = false :=
                same.trans (Bool.not_eq_true _ ▸ blank)
              conv_lhs => rw [ended, indentation_append shown]
        simp only [blank, Bool.not_false, ↓reduceIte, List.map_cons, ih, indented]

theorem no_feed_of_mem_formatLines {line chars : List Char}
    (member : line ∈ formatLines (Text.lines chars)) :
    '\n' ∉ line ∧ ∀ char ∈ line, char ∈ chars := by
  obtain ⟨original, inBody, rfl⟩ := List.mem_map.mp member
  have kept : ∀ char ∈ Text.trimEnd
      (original.drop (sharedIndentation (trimLines (Text.lines chars)))), char ∈ original := by
    intro char inCut
    rw [Text.trimEnd_eq_rdropWhile] at inCut
    exact List.mem_of_mem_drop ((List.rdropWhile_prefix _ _).subset inCut)
  have inLines : original ∈ Text.lines chars := by
    rw [trimLines, List.mem_reverse] at inBody
    have once := (List.dropWhile_sublist _).subset inBody
    rw [List.mem_reverse] at once
    exact (List.dropWhile_sublist _).subset once
  constructor
  · intro feed
    exact Text.no_feed_of_mem_lines inLines (kept _ feed)
  · intro char inCut
    exact (Text.infix_of_mem_lines inLines).subset (kept char inCut)

theorem IsLaidOut.lines_joinLines {lines : List (List Char)} (laidOut : IsLaidOut lines)
    (noFeed : ∀ line ∈ lines, '\n' ∉ line) : Text.lines (Text.joinLines lines) = lines := by
  refine Text.lines_joinLines noFeed ?_ ?_
  · intro line member ended
    have shown := laidOut.trimmed line member '\r' ended
    revert shown
    decide
  · intro empty
    have shown := laidOut.last_shown [] empty
    cases shown

theorem filter_format (tabSize : Option Nat) (text : String) :
    (format tabSize text).toList.filter (!isBlank ·) = text.toList.filter (!isBlank ·) := by
  rw [toList_format, Text.filter_joinLines (by decide), filter_flatten_formatLines,
    Text.filter_lines (by decide) (by decide), filter_expanded]

theorem isBlankText_iff {text : String} :
    isBlankText text = true ↔ text.toList.filter (!isBlank ·) = [] :=
  isBlankLine_iff

theorem formatLines_of_blank {text : String} (blank : isBlankText text = true)
    (tabSize : Option Nat) : formatLines (Text.lines (expanded tabSize text.toList)) = [] := by
  have flush := (formatLines_isLaidOut (Text.lines (expanded tabSize text.toList))).flush
  by_contra nonempty
  obtain ⟨line, member, shown, -⟩ := flush nonempty
  obtain ⟨char, inLine, notBlank⟩ := List.all_eq_false.mp shown
  have nothing : (formatLines (Text.lines (expanded tabSize text.toList))).flatten.filter
      (!isBlank ·) = [] := by
    rw [filter_flatten_formatLines, Text.filter_lines (by decide) (by decide), filter_expanded,
      isBlankText_iff.mp blank]
  rw [List.filter_eq_nil_iff] at nothing
  refine nothing char (List.mem_flatten_of_mem member inLine) ?_
  rw [Bool.not_eq_true] at notBlank
  rw [notBlank]
  rfl

theorem format_eq_empty_iff {tabSize : Option Nat} {text : String} :
    format tabSize text = "" ↔ isBlankText text = true := by
  constructor
  · intro empty
    rw [isBlankText_iff, ← filter_format tabSize, empty]
    rfl
  · intro blank
    rw [← String.toList_inj, toList_format, formatLines_of_blank blank]
    rfl

/-- The lines of a block that shows something are those that its layout consists of. -/
theorem splitOn_format {tabSize : Option Nat} {text : String} (shows : isBlankText text = false) :
    (format tabSize text).toList.splitOn '\n' =
      formatLines (Text.lines (expanded tabSize text.toList)) := by
  rw [toList_format, Text.joinLines]
  refine List.splitOn_intercalate '\n' (fun line member => ?_) ?_
  · exact (no_feed_of_mem_formatLines member).1
  · intro noLines
    have empty : format tabSize text = "" := by
      rw [← String.toList_inj, toList_format, noLines]
      rfl
    rw [format_eq_empty_iff.mp empty] at shows
    cases shows

theorem format_format (tabSize : Option Nat) (text : String) :
    format tabSize (format tabSize text) = format tabSize text := by
  have laidOut := formatLines_isLaidOut (Text.lines (expanded tabSize text.toList))
  have plain : expanded tabSize (format tabSize text).toList = (format tabSize text).toList := by
    refine expanded_of_subset text.toList ?_
    intro char member
    rw [toList_format] at member
    cases Text.mem_joinLines member with
    | inl feed => exact .inl feed
    | inr inside =>
        obtain ⟨line, lineMember, inLine⟩ := inside
        exact .inr ((no_feed_of_mem_formatLines lineMember).2 char inLine)
  rw [← String.toList_inj, toList_format, plain, toList_format,
    laidOut.lines_joinLines fun line member => (no_feed_of_mem_formatLines member).1,
    laidOut.formatLines_eq]

/-- A block is laid out by cuts where characters begin. Its layout is empty only when the text is
blank; else it shows the same characters, on lines that have moved together as far as one of them
could, and laying it out again changes nothing. -/
theorem format_lays_out (tabSize : Option Nat) (text : String) :
    let given := (expanded tabSize text.toList).splitOn '\n'
    let result := format tabSize text
    let shown := result.toList.splitOn '\n'
    formatByBytes? tabSize text = some result ∧
    (result = "" ↔ isBlankText text = true) ∧
    (isBlankText text = false → shown ≠ [] ∧ IsLaidOut shown) ∧
    result.toList.filter (!isBlank ·) = text.toList.filter (!isBlank ·) ∧
    (∃ shared, (given.filter (!isBlankLine ·)).map indentation =
      (shown.filter (!isBlankLine ·)).map (indentation · + shared)) ∧
    format tabSize result = result := by
  intro given result shown
  refine ⟨formatByBytes?_eq tabSize text, format_eq_empty_iff, ?_, filter_format tabSize text, ?_,
    format_format tabSize text⟩
  · intro shows
    refine ⟨List.splitOn_ne_nil _ _, ?_⟩
    simp only [shown, result, splitOn_format shows]
    exact formatLines_isLaidOut _
  · refine ⟨sharedIndentation (trimLines (Text.lines (expanded tabSize text.toList))), ?_⟩
    have moved := map_indentation_formatLines (Text.lines (expanded tabSize text.toList))
    simp only [given, map_indentation_lines, moved, shown, result]
    by_cases blank : isBlankText text = true
    · rw [format_eq_empty_iff.mpr blank, formatLines_of_blank blank]
      rfl
    · rw [splitOn_format (Bool.not_eq_true _ ▸ blank)]

/-- Wide blanks, a tab, a carriage return before a line feed and one inside a line. -/
theorem format_lays_out_wide_blanks :
    let text := "\n\u3000\u3000if a\r\n\u3000\u3000\tb\rc \n\u3000\n"
    let result := format (some 4) text
    isBlankText text = false ∧ result = "if a\n  b\rc" ∧
      formatByBytes? (some 4) text = some result ∧
      IsLaidOut (result.toList.splitOn '\n') ∧ format (some 4) result = result := by
  intro text result
  have shows : isBlankText text = false := by decide
  obtain ⟨bytes, _, laidOut, _, _, again⟩ := format_lays_out (some 4) text
  exact ⟨shows, by decide +kernel, bytes, (laidOut shows).2, again⟩

end DocPreview.CodeBlock
