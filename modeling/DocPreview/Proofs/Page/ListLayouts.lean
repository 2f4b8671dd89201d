import DocPreview.Proofs.Comment.RepeatedLinks
import DocPreview.Proofs.Page.Surfacing

/-!
# The layouts of a list

What a list shows is a sequence of entries, each with a term and a description, and it is read off
the children alone. The type of the list decides what is put around the entries.
-/

set_option autoImplicit false

namespace DocPreview

structure ListEntry where
  isHeader : Bool
  term? : Option (List Html)
  description : List Html

inductive ListLayout where
  | table | definitions | numbers | bullets
deriving DecidableEq

namespace ListLayout

def ofType : Option String → ListLayout
  | some "table" => .table
  | some "definition" => .definitions
  | some "number" => .numbers
  | _ => .bullets

/-- An entry as the layout frames it: a row of two cells, a term with its definition, or an item
with the term in a span before the description. -/
def frame (layout : ListLayout) (entry : ListEntry) : List Html :=
  match layout with
  | .table =>
    let cell := if entry.isHeader then "th" else "td"
    [.tagged "tr" []
      [.tagged cell [] (entry.term?.getD []), .tagged cell [] entry.description]]
  | .definitions =>
    [.tagged "dt" [] (entry.term?.getD []), .tagged "dd" [] entry.description]
  | .numbers | .bullets =>
    let attributes := if entry.isHeader then [("class", "header")] else []
    match entry.term? with
    | none => [.tagged "li" attributes entry.description]
    | some term =>
      [.tagged "li" attributes
        (.tagged "span" [("class", "term")] term :: .text " " :: entry.description)]

def markup (layout : ListLayout) (entries : List ListEntry) : Html :=
  let framed := entries.flatMap layout.frame
  match layout with
  | .table => .tagged "table" [("class", "list")] framed
  | .definitions => .tagged "dl" [] framed
  | .numbers => .tagged "ol" [] framed
  | .bullets => .tagged "ul" [] framed

end ListLayout

namespace Style

variable (style : Style) (setting : Setting)

def contents (element : Element) : List Html :=
  element.children.flatMap (style.interpretation setting)

/-- The first term and the first description of an entry. An entry with neither is all
description. -/
def entry (isHeader : Bool) (element : Element) : ListEntry where
  isHeader
  term? := (element.find? "term").map (style.contents setting)
  description :=
    match element.find? "term", element.find? "description" with
    | _, some description => style.contents setting description
    | none, none => style.contents setting element
    | some _, none => []

/-- The entries of a list: its first header, and then all its items in source order. -/
def entries (list : Element) : List ListEntry :=
  ((list.find? "listheader").map (style.entry setting true)).toList ++
    (list.childElements.filter (·.name == "item")).map (style.entry setting false)

end Style

/-! ## Reading the children of a list -/

section

variable (style : Style) (setting : Setting)

theorem childTags_tagOf (element : Element) :
    (style.tagOf setting element).childTags =
      element.childElements.map (style.tagOf setting) := by
  rw [Tag.childTags, Style.tagOf, Style.readAll_eq_map, Element.childElements, List.filterMap_map,
    List.map_filterMap]
  refine List.filterMap_congr fun node _ => ?_
  cases node <;> simp [Style.read, Tag.ofReading?, Node.element?, Style.tagOf]

theorem find?_tagOf (element : Element) (name : String) :
    (style.tagOf setting element).find? name =
      (element.find? name).map (style.tagOf setting) := by
  rw [Tag.find?, childTags_tagOf, List.find?_map]
  rfl

theorem value_contents_tagOf (element : Element) :
    (style.tagOf setting element).contents.value = style.contents setting element := by
  rw [Tag.contents, Style.tagOf, Style.readAll_eq_map, Layout.value_contents_map_read,
    Style.contents, List.flatMap_def]

theorem termAndDescription_tagOf (isHeader : Bool) (element : Element) :
    (Content.termAndDescription (style.tagOf setting element)).value =
      ((style.entry setting isHeader element).term?,
        (style.entry setting isHeader element).description) := by
  rw [Content.value_termAndDescription, find?_tagOf, find?_tagOf, Style.entry]
  cases element.find? "term" with
  | none =>
      cases element.find? "description" with
      | none => simp [value_contents_tagOf]
      | some description => simp [value_contents_tagOf]
  | some term =>
      cases element.find? "description" with
      | none => simp [value_contents_tagOf]
      | some description => simp [value_contents_tagOf]

theorem listEntries_tagOf (list : Element) :
    (Content.listEntries (style.tagOf setting list)).value =
      (style.entries setting list).map fun entry =>
        (entry.isHeader, entry.term?, entry.description) := by
  rw [Content.value_listEntries, find?_tagOf, childTags_tagOf, List.filter_map, Style.entries,
    List.map_append, List.map_map, List.map_map]
  congr 1
  · cases list.find? "listheader" with
    | none => rfl
    | some header => simp [termAndDescription_tagOf style setting true, Style.entry]
  · refine List.map_congr_left fun item _ => ?_
    simp [termAndDescription_tagOf style setting false, Style.entry]

end

theorem map_eq_flatMap_frame {layout : ListLayout} {made : ListEntry → Html}
    (framed : ∀ entry, [made entry] = layout.frame entry) (entries : List ListEntry) :
    entries.map made = entries.flatMap layout.frame := by
  rw [List.map_eq_flatMap]
  exact List.flatMap_congr fun entry _ => framed entry

theorem map_entryItem {layout : ListLayout} (items : layout = .numbers ∨ layout = .bullets)
    (entries : List ListEntry) :
    (entries.map fun entry =>
      Content.entryItem entry.isHeader entry.term? entry.description) =
        entries.flatMap layout.frame := by
  refine map_eq_flatMap_frame (fun entry => ?_) entries
  obtain ⟨isHeader, term?, description⟩ := entry
  obtain rfl | rfl := items
  · cases term? <;> rfl
  · cases term? <;> rfl

theorem ListLayout.ofType_eq_bullets {type : String} (noTable : type ≠ "table")
    (noDefinition : type ≠ "definition") (noNumber : type ≠ "number") :
    ofType (some type) = .bullets := by
  unfold ofType
  split
  · rename_i table
    exact absurd (Option.some.inj table) noTable
  · rename_i definition
    exact absurd (Option.some.inj definition) noDefinition
  · rename_i number
    exact absurd (Option.some.inj number) noNumber
  · rfl

theorem listLayout_eq_markup (type? : Option String) (entries : List ListEntry) :
    Content.listLayout (type?.getD "bullet")
        (entries.map fun entry => (entry.isHeader, entry.term?, entry.description)) =
      (ListLayout.ofType type?).markup entries := by
  have rows : (entries.map fun entry =>
      Content.entryRow entry.isHeader entry.term? entry.description) =
        entries.flatMap ListLayout.table.frame := map_eq_flatMap_frame (fun _ => rfl) entries
  have numbers := map_entryItem (.inl rfl : ListLayout.numbers = .numbers ∨ _) entries
  have bullets := map_entryItem (.inr rfl : _ ∨ ListLayout.bullets = .bullets) entries
  cases type? with
  | none =>
      simp only [Content.listLayout, Option.getD_none, List.map_map, Function.comp_def, bullets]
      rfl
  | some type =>
      unfold Content.listLayout
      simp only [Option.getD_some, List.map_map, Function.comp_def, List.flatMap_map, rows]
      split
      · rfl
      · rfl
      · rename_i noTable noDefinition
        by_cases number : type = "number"
        · subst number
          simp only [numbers]
          rfl
        · rw [ListLayout.ofType_eq_bullets noTable noDefinition number, bullets]
          simp only [beq_iff_eq, number, ↓reduceIte]
          rfl

/-! ## Repeated references beside the entries -/

/-- Children that are no references stay when repeated references are dropped. -/
theorem filter_childElements_suppressDuplicateLinks (element : Element) {name : String}
    (noLink : name ∉ ["see", "seealso"]) :
    element.suppressDuplicateLinks.childElements.filter (·.name == name) =
      element.childElements.filter (·.name == name) := by
  have named (nodes : List Node) :
      (nodes.filterMap Node.element?).filter (·.name == name) =
        (nodes.filter (Layout.hasTag name)).filterMap Node.element? := by
    rw [List.filter_filterMap, List.filterMap_filter]
    refine List.filterMap_congr fun node _ => ?_
    cases node with
    | text content => rfl
    | element other attributes children =>
        by_cases same : other = name <;> simp [Node.element?, Layout.hasTag, same]
  have shared : ∀ first second key, Node.linkTarget? first = some key →
      second.linkTarget? = some key → Layout.hasTag name first = Layout.hasTag name second := by
    intro first second key keyedFirst keyedSecond
    obtain ⟨_, _, rfl⟩ := Node.linkTarget?_eq_some keyedFirst
    obtain ⟨_, _, rfl⟩ := Node.linkTarget?_eq_some keyedSecond
    rfl
  have keyless :
      (element.children.filter (Layout.hasTag name)).filterMap Node.linkTarget? = [] := by
    rw [List.filterMap_eq_nil_iff]
    intro node member
    have tagged := (List.mem_filter.mp member).2
    cases node with
    | text content => rfl
    | element other attributes children =>
        obtain rfl : other = name := beq_iff_eq.mp tagged
        rw [List.mem_cons, List.mem_singleton, not_or] at noLink
        simp [Node.linkTarget?, linkTarget?, noLink]
  rw [Element.childElements, Element.childElements, named, named, Element.suppressDuplicateLinks,
    filter_keepFirst shared, keepFirst_eq_self]
  · rw [keyless]
    exact List.nodup_nil
  · rw [keyless]
    exact List.forall_mem_nil _

theorem Style.entries_suppressDuplicateLinks (style : Style) (setting : Setting) (list : Element) :
    style.entries setting list.suppressDuplicateLinks = style.entries setting list := by
  have header := filter_childElements_suppressDuplicateLinks list
    (by decide : "listheader" ∉ ["see", "seealso"])
  have items := filter_childElements_suppressDuplicateLinks list
    (by decide : "item" ∉ ["see", "seealso"])
  rw [Style.entries, Style.entries, items, Element.find?, Element.find?, ← List.head?_filter,
    ← List.head?_filter, header]

/-! ## Lists on a page -/

theorem value_list (style : Style) (setting : Setting) (list : Element) :
    (Content.list setting (style.tagOf setting list)).value =
      [(ListLayout.ofType (list.attribute? "type")).markup (style.entries setting list)] := by
  have handled : (Content.list setting (style.tagOf setting list)).value =
      [Content.listLayout (((style.tagOf setting list).attribute? "type").getD "bullet")
        (Content.listEntries (style.tagOf setting list)).value] := rfl
  rw [handled, listEntries_tagOf, listLayout_eq_markup]
  rfl

theorem value_dispatch_list (style : Style) (setting : Setting) (list : Element) :
    (Style.dispatch setting Content.list (style.tagOf setting list)).value =
      [(ListLayout.ofType (list.attribute? "type")).markup (style.entries setting list)] := by
  rw [Style.dispatch]
  split
  · rw [style.suppressDuplicateLinks_tagOf, value_list, style.entries_suppressDuplicateLinks]
    rfl
  · exact value_list style setting list

/-- What a list shows are the entries that are read off its children, whatever its type is. The type
decides what is put around the entries, and that only where lists have a meaning at all. -/
theorem list_shows_entries_in_layout {name : String} {style : Style}
    (named : Style.ofName? name = some style) (setting : Setting) (children : List Node) :
    let entries := style.entries setting { children }
    ∀ attributes : List (String × String),
      let list : Element := ⟨"list", attributes, children⟩
      (style.apply setting list).value =
        if setting.options.isRecognized "list" then
          [(ListLayout.ofType (attributes.lookup "type")).markup entries]
        else (Style.unrecognized setting.options.tagPolicy (style.tagOf setting list)).value := by
  intro entries attributes list
  have handled : style.registry.lookup "list" = some Content.list :=
    Style.lookup_shared named rfl
  have ordinary : ("list" == errorTag) = false := by decide
  rw [style.apply_eq_markup, Style.markup, style.name_tagOf, ordinary, handled]
  simp only [Bool.false_eq_true, ↓reduceIte]
  split
  · exact value_dispatch_list style setting list
  · rfl

/-- A header with a term, and items with both parts, with a description before another item, and
with neither part. -/
theorem list_shows_entries_in_layout_mixed_items :
    let setting : Setting := ⟨{}, {}, .csharp, {}⟩
    let part (name text : String) : Node := .element name [] [.text text]
    let children : List Node :=
      [.element "item" [] [part "description" "D", part "term" "T"], .text " ",
        .element "listheader" [] [part "term" "H"], part "item" "I"]
    let shown (attributes : List (String × String)) :=
      (Classic.style.apply setting ⟨"list", attributes, children⟩).value
    Style.ofName? "classic" = some Classic.style ∧
    (∀ attributes, shown attributes = [(ListLayout.ofType (attributes.lookup "type")).markup
      [⟨true, some [.text "H"], []⟩, ⟨false, some [.text "T"], [.text "D"]⟩,
        ⟨false, none, [.text "I"]⟩]]) := by
  intro setting part children shown
  refine ⟨rfl, fun attributes => ?_⟩
  have named : Style.ofName? "classic" = some Classic.style := rfl
  have recognized : setting.options.isRecognized "list" = true := by decide
  exact (list_shows_entries_in_layout named setting children attributes).trans (if_pos recognized)

end DocPreview
