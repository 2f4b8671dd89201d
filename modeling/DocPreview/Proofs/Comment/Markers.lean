import DocPreview.Comment.Parse
import DocPreview.Proofs.Text.Lines

/-!
# Markers on the lines of a comment

Documentation is written behind a marker on every line, or between the two marks of a block. However
the lines are indented and whatever they say, taking the markers away gives them back, so the form
of a comment does not show in its tree.
-/

set_option autoImplicit false

namespace DocPreview

namespace Text

theorem trimStart_blanks_append {blanks chars : List Char}
    (blank : ∀ char ∈ blanks, isBlank char = true) :
    trimStart (blanks ++ chars) = trimStart chars := by
  rw [trimStart, List.dropWhile_append_of_pos blank]
  rfl

end Text

namespace Comment

/-! ## Comments in a source file -/

inductive LineBreak where
  | feed
  | returnFeed

def LineBreak.chars : LineBreak → List Char
  | .feed => ['\n']
  | .returnFeed => ['\r', '\n']

/-- What surrounds a text on its line. The break counts only when another line follows. -/
structure Margin where
  indentation : List Char := []
  lineBreak : LineBreak := .feed
  indentation_blank : indentation.all (fun char => isBlank char && char != '\n') = true := by decide

theorem Margin.blank_of_mem (margin : Margin) {char : Char} (member : char ∈ margin.indentation) :
    isBlank char = true ∧ char ≠ '\n' := by
  have blank := List.all_eq_true.mp margin.indentation_blank char member
  rwa [Bool.and_eq_true, bne_iff_ne] at blank

def sourceText : List (Margin × List Char) → List Char
  | [] => []
  | [(margin, text)] => margin.indentation ++ text
  | (margin, text) :: next :: rest =>
    margin.indentation ++ text ++ margin.lineBreak.chars ++ sourceText (next :: rest)

inductive Form where
  /-- The prefix of the dialect stands on every line. -/
  | lines (dialect : Dialect)
  /-- A star stands on every line but the first and the last, which hold the marks of the block. -/
  | block (opening closing : Margin)

namespace Form

def dialect : Form → Dialect
  | .lines dialect => dialect
  | .block _ _ => .csharp

def marker : Form → List Char
  | .lines dialect => dialect.commentPrefix.toList ++ [' ']
  | .block _ _ => ['*', ' ']

/-- The lines of the comment, when those of the documentation have their markers. -/
def enclose : Form → List (Margin × List Char) → List (Margin × List Char)
  | .lines _, marked => marked
  | .block opening closing, marked =>
    (opening, ['/', '*', '*']) :: marked ++ [(closing, ['*', '/'])]

def raw (form : Form) (lines : List (Margin × List Char)) : String :=
  String.ofList <| sourceText <| form.enclose <|
    lines.map fun (margin, text) => (margin, form.marker ++ text)

/-- The text can be a line of documentation. In a block it must not end with the closing mark. -/
structure Admits (form : Form) (text : List Char) : Prop where
  no_feed : '\n' ∉ text
  no_return : text.getLast? ≠ some '\r'
  no_closing : ∀ opening closing, form = .block opening closing → ¬ ['*', '/'] <:+ text

end Form

/-! ## Reading the lines back -/

/-- A text that is read back as one line: it is there, holds no line feed and does not end in a part
of a line break. -/
structure IsLine (text : List Char) : Prop where
  nonempty : text ≠ []
  no_feed : '\n' ∉ text
  no_return : text.getLast? ≠ some '\r'

theorem IsLine.append {marker text : List Char} (marked : IsLine marker) (no_feed : '\n' ∉ text)
    (no_return : text.getLast? ≠ some '\r') : IsLine (marker ++ text) where
  nonempty := List.append_ne_nil_of_left_ne_nil marked.nonempty text
  no_feed := by
    rw [List.mem_append]
    exact fun member => member.elim marked.no_feed no_feed
  no_return := by
    rw [List.getLast?_append]
    cases last : text.getLast? with
    | none => exact marked.no_return
    | some char => simpa [last] using no_return

theorem Margin.no_feed (margin : Margin) : '\n' ∉ margin.indentation := fun member =>
  (margin.blank_of_mem member).2 rfl

theorem Margin.isLine (margin : Margin) {text : List Char} (line : IsLine text) :
    '\n' ∉ margin.indentation ++ text ∧
      (margin.indentation ++ text).getLast? ≠ some '\r' := by
  constructor
  · rw [List.mem_append]
    exact fun member => member.elim margin.no_feed line.no_feed
  · rw [List.getLast?_append_of_ne_nil _ line.nonempty]
    exact line.no_return

theorem lines_sourceText {lines : List (Margin × List Char)}
    (whole : ∀ line ∈ lines, IsLine line.2) :
    Text.lines (sourceText lines) = lines.map fun (margin, text) => margin.indentation ++ text := by
  induction lines with
  | nil => rfl
  | cons line lines ih =>
      obtain ⟨margin, text⟩ := line
      have isLine : IsLine text := whole _ List.mem_cons_self
      obtain ⟨noFeed, noReturn⟩ := margin.isLine isLine
      cases lines with
      | nil =>
          exact Text.lines_of_no_feed (List.append_ne_nil_of_right_ne_nil _ isLine.nonempty) noFeed
      | cons next lines =>
          have rest := ih fun later member => whole later (List.mem_cons_of_mem _ member)
          rw [List.map_cons, ← rest, sourceText]
          cases margin.lineBreak with
          | feed =>
              simp only [LineBreak.chars, List.append_assoc, List.singleton_append]
              rw [← List.append_assoc, Text.lines_append_feed noFeed,
                Text.dropReturn_of_getLast?_ne noReturn]
          | returnFeed =>
              have returned : '\n' ∉ margin.indentation ++ text ++ ['\r'] := by
                simpa using noFeed
              have split :
                  margin.indentation ++ text ++ ['\r', '\n'] ++ sourceText (next :: lines) =
                    margin.indentation ++ text ++ ['\r'] ++ '\n' :: sourceText (next :: lines) := by
                simp
              rw [LineBreak.chars, split, Text.lines_append_feed returned,
                Text.dropReturn_append_return]

/-! ## Taking the markers away -/

theorem trimStart_margin (margin : Margin) {first : Char} (shown : isBlank first = false)
    (text : List Char) :
    Text.trimStart (margin.indentation ++ first :: text) = first :: text := by
  rw [Text.trimStart_blanks_append fun char member => (margin.blank_of_mem member).1]
  simp [Text.trimStart, shown]

theorem stripLine_prefixed (dialect : Dialect) (margin : Margin) (text : List Char) :
    stripLine dialect (margin.indentation ++ ((Form.lines dialect).marker ++ text)) =
      some text := by
  cases dialect with
  | csharp =>
      have trimmed := trimStart_margin margin (show isBlank '/' = false by decide)
        (['/', '/', ' '] ++ text)
      have marked : (Form.lines .csharp).marker ++ text = '/' :: (['/', '/', ' '] ++ text) := rfl
      rw [marked]
      simp only [stripLine, trimmed]
      rfl
  | visualBasic =>
      have trimmed := trimStart_margin margin (show isBlank '\'' = false by decide)
        (['\'', '\'', ' '] ++ text)
      have marked : (Form.lines .visualBasic).marker ++ text =
          '\'' :: (['\'', '\'', ' '] ++ text) := rfl
      rw [marked]
      simp only [stripLine, trimmed]
      rfl

theorem dropBlockEnd_of_not_suffix {line : List Char} (no_closing : ¬ ['*', '/'] <:+ line) :
    dropBlockEnd line = line := by
  simp [dropBlockEnd, Text.dropSuffix?, no_closing]

/-- A star line keeps its text, also when the text begins with a marker itself. -/
theorem stripLine_star (margin : Margin) {text : List Char} (no_closing : ¬ ['*', '/'] <:+ text) :
    stripLine .csharp (margin.indentation ++ '*' :: ' ' :: text) = some text := by
  have trimmed := trimStart_margin margin (show isBlank '*' = false by decide) (' ' :: text)
  have unclosed : ¬ ['*', '/'] <:+ '*' :: ' ' :: text := by
    simpa [List.suffix_cons_iff] using no_closing
  have stripped : stripBlockLine (margin.indentation ++ '*' :: ' ' :: text) =
      some (' ' :: text) := by
    rw [stripBlockLine, trimmed, dropBlockEnd_of_not_suffix unclosed]
    rfl
  have unprefixed : Text.dropOpening? Dialect.csharp.commentPrefix.toList ('*' :: ' ' :: text) =
      none := rfl
  simp only [stripLine, trimmed, unprefixed, stripped]
  rfl

theorem stripLine_opening (margin : Margin) :
    stripLine .csharp (margin.indentation ++ ['/', '*', '*']) = none := by
  have trimmed := trimStart_margin margin (show isBlank '/' = false by decide) ['*', '*']
  simp only [stripLine, stripBlockLine, trimmed]
  rfl

theorem stripLine_closing (margin : Margin) :
    stripLine .csharp (margin.indentation ++ ['*', '/']) = none := by
  have trimmed := trimStart_margin margin (show isBlank '*' = false by decide) ['/']
  simp only [stripLine, stripBlockLine, trimmed]
  rfl

namespace Form

variable {form : Form} {lines : List (Margin × List Char)}

theorem marker_isLine (form : Form) : IsLine form.marker := by
  cases form with
  | lines dialect =>
      cases dialect with
      | csharp => exact ⟨by decide, by decide, by decide⟩
      | visualBasic => exact ⟨by decide, by decide, by decide⟩
  | block opening closing => exact show IsLine ['*', ' '] from ⟨by decide, by decide, by decide⟩

theorem isLine_enclose (admitted : ∀ line ∈ lines, form.Admits line.2) :
    ∀ line ∈ form.enclose (lines.map fun (margin, text) => (margin, form.marker ++ text)),
      IsLine line.2 := by
  have marked : ∀ line ∈ lines.map fun (margin, text) => (margin, form.marker ++ text),
      IsLine line.2 := by
    intro line member
    obtain ⟨⟨margin, text⟩, original, rfl⟩ := List.mem_map.mp member
    have admits := admitted _ original
    exact form.marker_isLine.append admits.no_feed admits.no_return
  cases form with
  | lines dialect => exact marked
  | block opening closing =>
      intro line member
      simp only [enclose, List.cons_append, List.mem_cons, List.mem_append, List.not_mem_nil,
        or_false] at member
      rcases member with rfl | member | rfl
      · exact show IsLine ['/', '*', '*'] from ⟨by decide, by decide, by decide⟩
      · exact marked line member
      · exact show IsLine ['*', '/'] from ⟨by decide, by decide, by decide⟩

theorem filterMap_stripLine_enclose (admitted : ∀ line ∈ lines, form.Admits line.2) :
    ((form.enclose (lines.map fun (margin, text) => (margin, form.marker ++ text))).map
        fun (margin, text) => margin.indentation ++ text).filterMap (stripLine form.dialect) =
      lines.map (·.2) := by
  cases form with
  | lines dialect =>
      simp only [enclose, List.map_map, List.filterMap_map, Function.comp_def, Form.dialect,
        stripLine_prefixed, List.filterMap_eq_map']
  | block opening closing =>
      have texts : lines.filterMap (fun (margin, text) =>
          stripLine .csharp (margin.indentation ++ '*' :: ' ' :: text)) = lines.map (·.2) := by
        rw [← List.filterMap_eq_map]
        refine List.filterMap_congr fun line member => ?_
        exact stripLine_star line.1 ((admitted line member).no_closing opening closing rfl)
      simp only [enclose, List.map_cons, List.map_append, List.map_map, List.filterMap_append,
        List.cons_append, List.filterMap_cons, Form.dialect, stripLine_opening, stripLine_closing,
        List.map_nil, List.filterMap_nil, List.append_nil, List.filterMap_map]
      exact texts

end Form

/-- In every form, and with any margins, a raw comment is read back as the lines that it says. Two
comments that say the same lines have the same tree. -/
theorem stripPrefixes_raw (form : Form) (lines : List (Margin × List Char))
    (admitted : ∀ line ∈ lines, form.Admits line.2) :
    stripPrefixes form.dialect (form.raw lines) =
        String.ofList (Text.joinLines (lines.map (·.2))) ∧
      ∀ (other : Form) (others : List (Margin × List Char)),
        (∀ line ∈ others, other.Admits line.2) → others.map (·.2) = lines.map (·.2) →
          parse other.dialect (other.raw others) = parse form.dialect (form.raw lines) := by
  have stripped : ∀ (form : Form) (lines : List (Margin × List Char)),
      (∀ line ∈ lines, form.Admits line.2) →
        stripPrefixes form.dialect (form.raw lines) =
          String.ofList (Text.joinLines (lines.map (·.2))) := by
    intro form lines admitted
    rw [stripPrefixes, Form.raw, String.toList_ofList,
      lines_sourceText (Form.isLine_enclose admitted), Form.filterMap_stripLine_enclose admitted]
  refine ⟨stripped form lines admitted, ?_⟩
  intro other others admittedOthers same
  rw [parse, parse, stripped form lines admitted, stripped other others admittedOthers, same]

theorem stripPrefixes_raw_lines_like_markers :
    let margin : Margin := { indentation := ['\t', ' '], lineBreak := .returnFeed }
    let lines : List (Margin × List Char) :=
      [(margin, "*/ <c>".toList), ({}, []), (margin, " /// * '''".toList)]
    let block : Form := .block margin {}
    let quotes : Form := .lines .visualBasic
    (∀ line ∈ lines, block.Admits line.2) ∧ (∀ line ∈ lines, quotes.Admits line.2) ∧
      stripPrefixes .csharp (block.raw lines) = "*/ <c>\n\n /// * '''" ∧
      parse .visualBasic (quotes.raw lines) = parse .csharp (block.raw lines) := by
  intro margin lines block quotes
  have inBlock : ∀ line ∈ lines, block.Admits line.2 := by
    intro line member
    simp only [lines, List.mem_cons, List.not_mem_nil, or_false] at member
    rcases member with rfl | rfl | rfl
    · exact ⟨by decide, by decide, fun _ _ _ => by decide⟩
    · exact ⟨by decide, by decide, fun _ _ _ => by decide⟩
    · exact ⟨by decide, by decide, fun _ _ _ => by decide⟩
  have inQuotes : ∀ line ∈ lines, quotes.Admits line.2 := fun line member =>
    ⟨(inBlock line member).no_feed, (inBlock line member).no_return,
      fun _ _ isBlock => nomatch isBlock⟩
  obtain ⟨stripped, same⟩ := stripPrefixes_raw block lines inBlock
  exact ⟨inBlock, inQuotes, stripped, same quotes lines inQuotes rfl⟩

end Comment

end DocPreview
