import DocPreview.Page.Reference
import DocPreview.Proofs.Html.Search
import Mathlib.Data.List.Nodup
import Mathlib.Data.String.Basic

/-!
# The listing of members

The rows of the listing are the members of the type, sorted by kind and name, with members of one
kind and name as they came; a reader gets each member back from its row. The filter boxes name the
style classes of the rows, each once.
-/

set_option autoImplicit false

namespace DocPreview

/-! ## Stable sorting -/

section

variable {α κ : Type} [DecidableEq κ] {key : α → κ}

/-- Sorting keeps the items of one key in their order. -/
theorem filter_mergeSort {le : α → α → Bool}
    (trans : ∀ first second third, le first second → le second third → le first third)
    (total : ∀ left right, le left right || le right left)
    (ofKey : ∀ left right, key left = key right → le left right) (items : List α) (value : κ) :
    (items.mergeSort le).filter (key · = value) = items.filter (key · = value) := by
  have sorted : (items.filter (key · = value)).Pairwise fun left right => le left right := by
    refine List.pairwise_of_forall_mem_list ?_
    intro left leftMember right rightMember
    have leftKey := of_decide_eq_true (List.mem_filter.mp leftMember).2
    have rightKey := of_decide_eq_true (List.mem_filter.mp rightMember).2
    exact ofKey left right (leftKey.trans rightKey.symm)
  have kept := (List.sublist_mergeSort trans total sorted List.filter_sublist).filter
    (key · = value)
  rw [List.filter_filter] at kept
  simp only [Bool.and_self] at kept
  have length := ((List.mergeSort_perm items le).filter (key · = value)).length_eq
  exact (kept.eq_of_length length.symm).symm

/-- Two sorted lists with the same items of every key, in the same order, are the same. -/
theorem eq_of_pairwise_of_filter {le : α → α → Prop}
    (antisymm : ∀ left right, le left right → le right left → key left = key right)
    {first second : List α} (firstSorted : first.Pairwise le) (secondSorted : second.Pairwise le)
    (same : ∀ value, first.filter (key · = value) = second.filter (key · = value)) :
    first = second := by
  have mem_iff : ∀ item, item ∈ first ↔ item ∈ second := by
    intro item
    have within := congrArg (item ∈ ·) (same (key item))
    simpa using within
  induction first generalizing second with
  | nil =>
      cases second with
      | nil => rfl
      | cons other second => exact absurd ((mem_iff other).mpr List.mem_cons_self) List.not_mem_nil
  | cons item first ih =>
      cases second with
      | nil => exact absurd ((mem_iff item).mp List.mem_cons_self) List.not_mem_nil
      | cons other second =>
          obtain ⟨before, firstRest⟩ := List.pairwise_cons.mp firstSorted
          obtain ⟨otherBefore, secondRest⟩ := List.pairwise_cons.mp secondSorted
          have keys : key item = key other := by
            obtain rfl | otherLater := List.mem_cons.mp ((mem_iff other).mpr List.mem_cons_self)
            · rfl
            · obtain rfl | itemLater := List.mem_cons.mp ((mem_iff item).mp List.mem_cons_self)
              · rfl
              · exact antisymm item other (before other otherLater) (otherBefore item itemLater)
          have heads := same (key item)
          rw [List.filter_cons_of_pos (by simp), List.filter_cons_of_pos (by simp [keys])] at heads
          obtain ⟨rfl, _⟩ := List.cons.inj heads
          have rest : ∀ value, first.filter (key · = value) = second.filter (key · = value) := by
            intro value
            have both := same value
            rw [List.filter_cons, List.filter_cons] at both
            split at both
            · exact (List.cons.inj both).2
            · exact both
          have members : ∀ found, found ∈ first ↔ found ∈ second := by
            intro found
            have within := congrArg (found ∈ ·) (rest (key found))
            simpa using within
          rw [ih firstRest secondRest rest members]

end

/-! ## The order of the rows -/

namespace MemberListing

/-- One member stands before another by kind, and within a kind by name. Names are compared
character by character. -/
def StandsBefore (left right : MemberSummary) : Prop :=
  MemberKind.listingOrder.idxOf left.kind < MemberKind.listingOrder.idxOf right.kind ∨
    left.kind = right.kind ∧ left.name ≤ right.name

theorem rank_eq_idxOf (kind : MemberKind) : kind.rank = MemberKind.listingOrder.idxOf kind := by
  cases kind <;> rfl

theorem rank_inj {left right : MemberKind} : left.rank = right.rank ↔ left = right := by
  cases left <;> cases right <;> decide

theorem precedes_iff {left right : MemberSummary} :
    precedes left right = true ↔ StandsBefore left right := by
  rw [precedes, Bool.or_eq_true, Bool.and_eq_true, decide_eq_true_iff, decide_eq_true_iff,
    beq_iff_eq, rank_inj, rank_eq_idxOf, rank_eq_idxOf]
  rfl

theorem StandsBefore.trans {first second third : MemberSummary}
    (firstSecond : StandsBefore first second) (secondThird : StandsBefore second third) :
    StandsBefore first third := by
  cases firstSecond with
  | inl less =>
      cases secondThird with
      | inl later => exact .inl (less.trans later)
      | inr names => exact .inl (names.1 ▸ less)
  | inr names =>
      cases secondThird with
      | inl later => exact .inl (names.1 ▸ later)
      | inr laterNames =>
          exact .inr ⟨names.1.trans laterNames.1, String.le_trans names.2 laterNames.2⟩

theorem StandsBefore.total (left right : MemberSummary) :
    StandsBefore left right ∨ StandsBefore right left := by
  obtain less | same | greater := lt_trichotomy left.kind.rank right.kind.rank
  · rw [rank_eq_idxOf, rank_eq_idxOf] at less
    exact .inl (.inl less)
  · have kinds := rank_inj.mp same
    cases String.le_total left.name right.name with
    | inl names => exact .inl (.inr ⟨kinds, names⟩)
    | inr names => exact .inr (.inr ⟨kinds.symm, names⟩)
  · rw [rank_eq_idxOf, rank_eq_idxOf] at greater
    exact .inr (.inl greater)

theorem StandsBefore.antisymm {left right : MemberSummary} (forwards : StandsBefore left right)
    (backwards : StandsBefore right left) :
    (left.kind, left.name) = (right.kind, right.name) := by
  cases forwards with
  | inl less =>
      cases backwards with
      | inl greater => exact absurd (less.trans greater) (Nat.lt_irrefl _)
      | inr names => exact absurd (names.1 ▸ less) (Nat.lt_irrefl _)
  | inr names =>
      cases backwards with
      | inl greater => exact absurd (names.1 ▸ greater) (Nat.lt_irrefl _)
      | inr later => rw [names.1, String.le_antisymm names.2 later.2]

/-- The list holds the same members, sorted, and those of one kind and name as they came. -/
structure IsStableSort (sorted members : List MemberSummary) : Prop where
  perm : sorted.Perm members
  ordered : sorted.Pairwise StandsBefore
  stable : ∀ called : MemberKind × String,
    sorted.filter (fun member => (member.kind, member.name) = called) =
      members.filter fun member => (member.kind, member.name) = called

theorem IsStableSort.unique {first second members : List MemberSummary}
    (firstSort : IsStableSort first members) (secondSort : IsStableSort second members) :
    first = second := by
  have antisymm : ∀ left right, StandsBefore left right → StandsBefore right left →
      (left.kind, left.name) = (right.kind, right.name) :=
    fun _ _ forwards backwards => forwards.antisymm backwards
  refine eq_of_pairwise_of_filter antisymm firstSort.ordered secondSort.ordered ?_
  intro called
  rw [firstSort.stable called, secondSort.stable called]

theorem sorted_isStableSort (members : List MemberSummary) :
    IsStableSort (sorted members) members := by
  have trans : ∀ first second third, precedes first second → precedes second third →
      precedes first third := by
    intro first second third firstSecond secondThird
    exact precedes_iff.mpr
      ((precedes_iff.mp firstSecond).trans (precedes_iff.mp secondThird))
  have total : ∀ left right, precedes left right || precedes right left := by
    intro left right
    rw [Bool.or_eq_true, precedes_iff, precedes_iff]
    exact StandsBefore.total left right
  refine ⟨List.mergeSort_perm members precedes, ?_, ?_⟩
  · refine (List.pairwise_mergeSort trans total members).imp ?_
    intro left right inOrder
    exact precedes_iff.mp inOrder
  · intro called
    refine filter_mergeSort trans total ?_ members called
    intro left right same
    obtain ⟨kinds, names⟩ := Prod.mk.inj same
    exact precedes_iff.mpr (.inr ⟨kinds, names ▸ String.le_refl left.name⟩)

end MemberListing

/-! ## Rows and boxes on the page -/

namespace MemberListing

open Html (findAll findAllIn)

/-- The rows of a listing, without that of the headings. -/
def rows (listing : List Html) : List Html :=
  (findAllIn "tr" listing).tail

/-- The style classes that the filter boxes of a listing show and hide. -/
def boxes (listing : List Html) : List String :=
  (findAllIn "input" listing).filterMap (Html.attribute? "data-filter")

def kindClass (member : MemberSummary) : String :=
  "kind-" ++ member.kind.slug

def visibilityClass (member : MemberSummary) : String :=
  "visibility-" ++ member.visibility.slug

def referenceTo (owner : String) (member : MemberSummary) : String :=
  member.kind.referenceLetter ++ ":" ++ owner ++ "." ++ member.name

/-- The member that a row shows. Behind their first, the style classes of the row name the kind,
the visibility and what marks the member; the second and the third cell hold its name and its
summary. -/
def memberOf? (row : Html) : Option MemberSummary :=
  match row.styleClasses, findAll "td" row with
  | _ :: ofKind :: ofLevel :: marks, [_, name, summary] => do
    let kind ← MemberKind.listingOrder.find? fun kind => "kind-" ++ kind.slug == ofKind
    let level ← Visibility.listingOrder.find? fun level => "visibility-" ++ level.slug == ofLevel
    return ⟨name.textContent, kind, level, marks.contains "static", summary.textContent⟩
  | _, _ => none

/-- The links of a row: what each refers to, its address and its text. -/
def links (row : Html) : List (Option String × Option String × String) :=
  (findAll "a" row).map fun link =>
    (link.attribute? "data-cref", link.attribute? "href", link.textContent)

def iconTitles (row : Html) : List String :=
  (findAll "span" row).filterMap (Html.attribute? "title")

theorem findAllIn_icons (tag : String) (member : MemberSummary) :
    findAllIn tag (icons member) = if "span" = tag then icons member else [] := by
  rw [icons]
  cases member.isStatic <;> by_cases icon : "span" = tag <;>
    simp [Html.tagged, findAll, findAllIn, icon]

theorem findAll_row {tag : String} (outside : tag ∉ ["td", "span", "a"]) (owner : String)
    (member : MemberSummary) :
    findAll tag (row owner member) = if "tr" = tag then [row owner member] else [] := by
  simp only [List.mem_cons, List.not_mem_nil, or_false, not_or] at outside
  obtain ⟨noCell, noIcon, noLink⟩ := outside
  simp [row, CodeReference.link, Html.classed, Html.tagged, findAll, findAllIn, findAllIn_icons,
    Ne.symm noCell, Ne.symm noIcon, Ne.symm noLink]

theorem findAllIn_rows {tag : String} (outside : tag ∉ ["td", "span", "a"]) (owner : String)
    (members : List MemberSummary) :
    findAllIn tag (members.map (row owner)) =
      if "tr" = tag then members.map (row owner) else [] := by
  rw [Html.findAllIn_map (findAll_row outside owner)]
  split
  · exact List.flatMap_pure_eq_map _ _
  · exact List.flatMap_eq_nil_iff.mpr fun _ _ => rfl

abbrev filterBoxes (classes : List (String × String)) : List Html :=
  classes.map fun (styleClass, label) => filterBox styleClass label

theorem findAllIn_filterBoxes {tag : String} (outside : tag ∉ ["label", "input"])
    (classes : List (String × String)) : findAllIn tag (filterBoxes classes) = [] := by
  simp only [List.mem_cons, List.not_mem_nil, or_false, not_or] at outside
  refine Html.findAllIn_map_eq_nil (fun box => ?_) classes
  simp [filterBox, Html.tagged, findAll, findAllIn, Ne.symm outside.1, Ne.symm outside.2]

theorem boxes_filterBoxes (classes : List (String × String)) :
    boxes (filterBoxes classes) = classes.map Prod.fst := by
  have each : ∀ box : String × String,
      (findAll "input" (filterBox box.1 box.2)).filterMap (Html.attribute? "data-filter") =
        [box.1] := by
    intro box
    simp only [filterBox, Html.tagged, findAll, findAllIn]
    rfl
  rw [boxes, Html.findAllIn_map fun box => rfl, List.filterMap_flatMap]
  simp only [each]
  exact List.flatMap_pure_eq_map _ _

theorem findAllIn_listing {declaration : Declaration} {tag : String}
    (isType : declaration.kind.isType = true) (nonempty : declaration.members ≠ [])
    (outside : tag ∉ ["section", "details", "summary", "div", "table"]) :
    findAllIn tag (Reference.listing declaration) =
      findAllIn tag (filterBoxes (filters declaration.members)) ++
        (findAll tag headings ++ findAllIn tag
          ((sorted declaration.members).map (row (".".intercalate declaration.path)))) := by
  have filled : declaration.members.isEmpty = false := List.isEmpty_eq_false_iff.mpr nonempty
  simp only [List.mem_cons, List.not_mem_nil, or_false, not_or] at outside
  obtain ⟨noSection, noDetails, noSummary, noDivision, noTable⟩ := outside
  simp [Reference.listing, markup?, isType, filled, Reference.titled, Html.tagged, Html.classed,
    findAll, findAllIn, Ne.symm noSection, Ne.symm noDetails, Ne.symm noSummary,
    Ne.symm noDivision, Ne.symm noTable]

theorem listing_of_isType {declaration : Declaration} (isType : declaration.kind.isType = true)
    (nonempty : declaration.members ≠ []) :
    rows (Reference.listing declaration) =
        (sorted declaration.members).map (row (".".intercalate declaration.path)) ∧
      boxes (Reference.listing declaration) = (filters declaration.members).map Prod.fst := by
  constructor
  · rw [rows, findAllIn_listing isType nonempty (by decide), findAllIn_filterBoxes (by decide),
      findAllIn_rows (by decide)]
    rfl
  · rw [boxes, findAllIn_listing isType nonempty (by decide), findAllIn_rows (by decide),
      List.filterMap_append]
    exact (List.append_nil _).trans (boxes_filterBoxes _)

theorem rowClass_eq (member : MemberSummary) :
    (rowClass member).toList = "member".toList ++ ' ' :: ((kindClass member).toList ++
      ' ' :: ((visibilityClass member).toList ++
        if member.isStatic then ' ' :: "static".toList else [])) := by
  have front : "member kind-".toList = "member".toList ++ ' ' :: "kind-".toList := by decide
  have middle : " visibility-".toList = ' ' :: "visibility-".toList := by decide
  have back : " static".toList = ' ' :: "static".toList := by decide
  have written : rowClass member = "member kind-" ++ member.kind.slug ++ " visibility-" ++
      member.visibility.slug ++ (if member.isStatic then " static" else "") := rfl
  rw [written, kindClass, visibilityClass]
  cases member.isStatic with
  | false =>
      simp only [String.toList_append, front, middle, List.append_assoc, List.cons_append]
      rfl
  | true =>
      simp only [String.toList_append, front, middle, back, List.append_assoc, List.cons_append,
        ↓reduceIte]

theorem styleClasses_row (owner : String) (member : MemberSummary) :
    (row owner member).styleClasses =
      ["member", kindClass member, visibilityClass member] ++
        if member.isStatic then ["static"] else [] := by
  have kindWhole : ' ' ∉ (kindClass member).toList := by
    rw [kindClass]
    cases member.kind <;> decide
  have levelWhole : ' ' ∉ (visibilityClass member).toList := by
    rw [visibilityClass]
    cases member.visibility <;> decide
  have classes : (row owner member).styleClasses =
      ((rowClass member).toList.splitOn ' ').map String.ofList := rfl
  rw [classes, rowClass_eq, List.splitOn_append_cons_self_of_not_mem (by decide),
    List.splitOn_append_cons_self_of_not_mem kindWhole]
  cases member.isStatic with
  | false =>
      rw [if_neg Bool.false_ne_true, if_neg Bool.false_ne_true, List.append_nil,
        List.splitOn_eq_singleton levelWhole]
      simp
  | true =>
      rw [if_pos rfl, if_pos rfl, List.splitOn_append_cons_self_of_not_mem levelWhole,
        List.splitOn_eq_singleton (by decide)]
      simp

theorem kind_read (member : MemberSummary) :
    (MemberKind.listingOrder.find? fun kind => "kind-" ++ kind.slug == kindClass member) =
      some member.kind := by
  rw [kindClass]
  cases member.kind <;> decide

theorem visibility_read (member : MemberSummary) :
    (Visibility.listingOrder.find? fun level =>
      "visibility-" ++ level.slug == visibilityClass member) = some member.visibility := by
  rw [visibilityClass]
  cases member.visibility <;> decide

theorem textContents_icons (member : MemberSummary) :
    Html.textContents (icons member) = "" := by
  rw [icons]
  cases member.isStatic <;> rfl

theorem cells_row (owner : String) (member : MemberSummary) :
    findAll "td" (row owner member) =
      [.classed "td" "icons" (icons member),
       .tagged "td" [] [CodeReference.link (referenceTo owner member) (some [.text member.name])],
       .tagged "td" [] [.text member.summary]] := by
  simp [row, referenceTo, CodeReference.link, Html.classed, Html.tagged, findAll, findAllIn,
    findAllIn_icons]

theorem cellTexts_row (owner : String) (member : MemberSummary) :
    (findAll "td" (row owner member)).map Html.textContent =
      ["", member.name, member.summary] := by
  simp [cells_row, CodeReference.link, Html.classed, Html.tagged, Html.textContent,
    Html.textContents, textContents_icons]

theorem links_row (owner : String) (member : MemberSummary) :
    links (row owner member) =
      [(some (referenceTo owner member), some ("#" ++ referenceTo owner member),
        member.name)] := by
  have found : findAll "a" (row owner member) =
      [CodeReference.link (referenceTo owner member) (some [.text member.name])] := by
    simp [row, referenceTo, CodeReference.link, Html.classed, Html.tagged, findAll, findAllIn,
      findAllIn_icons]
  have shown : (CodeReference.link (referenceTo owner member)
      (some [.text member.name])).textContent = member.name := String.append_empty
  rw [links, found, List.map_singleton, shown]
  rfl

theorem iconTitles_row (owner : String) (member : MemberSummary) :
    iconTitles (row owner member) =
      (member.visibility.label ++ " " ++ member.kind.label) ::
        if member.isStatic then ["Static"] else [] := by
  have found : findAll "span" (row owner member) = icons member := by
    simp [row, CodeReference.link, Html.classed, Html.tagged, findAll, findAllIn,
      findAllIn_icons]
  rw [iconTitles, found, icons]
  cases member.isStatic <;> rfl

theorem memberOf?_row (owner : String) (member : MemberSummary) :
    memberOf? (row owner member) = some member := by
  have texts := cellTexts_row owner member
  simp only [cells_row, List.map_cons, List.map_nil, List.cons.injEq, and_true] at texts
  rw [memberOf?, styleClasses_row, cells_row]
  simp only [List.cons_append, List.nil_append, kind_read, visibility_read, texts]
  cases static : member.isStatic <;> simp [← static]

theorem filters_nodup (members : List MemberSummary) :
    ((filters members).map Prod.fst).Nodup := by
  have all : (MemberKind.listingOrder.map (fun kind => "kind-" ++ kind.slug) ++
      Visibility.listingOrder.map (fun level => "visibility-" ++ level.slug)).Nodup := by decide
  refine all.sublist ?_
  rw [filters, List.map_append, List.map_map, List.map_map]
  exact (List.filter_sublist.map _).append (List.filter_sublist.map _)

theorem mem_filters_iff {members : List MemberSummary} {styleClass : String} :
    styleClass ∈ (filters members).map Prod.fst ↔
      ∃ member ∈ members, styleClass = kindClass member ∨ styleClass = visibilityClass member := by
  have kinds : ∀ kind : MemberKind, kind ∈ MemberKind.listingOrder := by
    intro kind
    cases kind <;> decide
  have levels : ∀ level : Visibility, level ∈ Visibility.listingOrder := by
    intro level
    cases level <;> decide
  rw [filters, List.map_append, List.map_map, List.map_map, List.mem_append, List.mem_map,
    List.mem_map]
  constructor
  · intro offered
    cases offered with
    | inl ofKind =>
        obtain ⟨kind, occurs, rfl⟩ := ofKind
        obtain ⟨member, inMembers, same⟩ := List.any_eq_true.mp (List.mem_filter.mp occurs).2
        exact ⟨member, inMembers, .inl (by rw [kindClass, eq_of_beq same]; rfl)⟩
    | inr ofLevel =>
        obtain ⟨level, occurs, rfl⟩ := ofLevel
        obtain ⟨member, inMembers, same⟩ := List.any_eq_true.mp (List.mem_filter.mp occurs).2
        exact ⟨member, inMembers, .inr (by rw [visibilityClass, eq_of_beq same]; rfl)⟩
  · intro occurring
    obtain ⟨member, inMembers, named⟩ := occurring
    cases named with
    | inl ofKind =>
        refine .inl ⟨member.kind, List.mem_filter.mpr ⟨kinds _, ?_⟩, ofKind.symm⟩
        exact List.any_eq_true.mpr ⟨member, inMembers, beq_self_eq_true _⟩
    | inr ofLevel =>
        refine .inr ⟨member.visibility, List.mem_filter.mpr ⟨levels _, ?_⟩, ofLevel.symm⟩
        exact List.any_eq_true.mpr ⟨member, inMembers, beq_self_eq_true _⟩

theorem listing_eq_nil {declaration : Declaration}
    (without : declaration.kind.isType = false ∨ declaration.members = []) :
    Reference.listing declaration = [] := by
  rw [Reference.listing, markup?]
  cases without with
  | inl member => rw [member]; rfl
  | inr empty => rw [empty, List.isEmpty_nil, Bool.or_true]; rfl

/-- A type with members has a listing, and nothing else has one. Its rows are the one stable sort of
the members, and each member can be read back off its row, which links its name to the reference to
it and shows its summary and its icons. The boxes name the kinds and the visibilities that occur, so
that each of the two classes of a row has one box, and every box has a row. -/
theorem listing_sorted_and_filtered (declaration : Declaration) :
    let listing := Reference.listing declaration
    let owner := ".".intercalate declaration.path
    let shown := row owner
    (declaration.kind.isType = true → declaration.members ≠ [] →
      ∃ members, IsStableSort members declaration.members ∧
        (∀ other, IsStableSort other declaration.members → other = members) ∧
        rows listing = members.map shown ∧
        (rows listing).map memberOf? = members.map some ∧
        (boxes listing).Nodup ∧
        (∀ styleClass, styleClass ∈ boxes listing ↔ ∃ member ∈ declaration.members,
          styleClass = kindClass member ∨ styleClass = visibilityClass member) ∧
        (∀ member ∈ members,
          (shown member).styleClasses = ["member", kindClass member, visibilityClass member] ++
            (if member.isStatic then ["static"] else []) ∧
          (findAll "td" (shown member)).map Html.textContent =
            ["", member.name, member.summary] ∧
          links (shown member) =
            [(some (referenceTo owner member), some ("#" ++ referenceTo owner member),
              member.name)] ∧
          iconTitles (shown member) = (member.visibility.label ++ " " ++ member.kind.label) ::
            (if member.isStatic then ["Static"] else []) ∧
          (boxes listing).count (kindClass member) = 1 ∧
          (boxes listing).count (visibilityClass member) = 1) ∧
        ∀ box ∈ boxes listing, ∃ row ∈ rows listing, box ∈ row.styleClasses) ∧
    (declaration.kind.isType = false ∨ declaration.members = [] → listing = []) := by
  intro listing owner shown
  refine ⟨fun isType nonempty => ?_, listing_eq_nil⟩
  obtain ⟨rowsShown, boxesShown⟩ := listing_of_isType isType nonempty
  have sort := sorted_isStableSort declaration.members
  have distinct : (boxes listing).Nodup := by
    rw [boxesShown]
    exact filters_nodup declaration.members
  have named : ∀ styleClass, styleClass ∈ boxes listing ↔ ∃ member ∈ declaration.members,
      styleClass = kindClass member ∨ styleClass = visibilityClass member := by
    intro styleClass
    rw [boxesShown]
    exact mem_filters_iff
  have readBack : (rows listing).map memberOf? = (sorted declaration.members).map some := by
    rw [rowsShown, List.map_map]
    exact List.map_congr_left fun member _ => memberOf?_row owner member
  refine ⟨sorted declaration.members, sort, fun other otherSort => otherSort.unique sort,
    rowsShown, readBack, distinct, named, ?_, ?_⟩
  · intro member inSorted
    have inMembers := sort.perm.subset inSorted
    refine ⟨styleClasses_row owner member, cellTexts_row owner member, links_row owner member,
      iconTitles_row owner member, ?_, ?_⟩
    · exact List.count_eq_one_of_mem distinct ((named _).mpr ⟨member, inMembers, .inl rfl⟩)
    · exact List.count_eq_one_of_mem distinct ((named _).mpr ⟨member, inMembers, .inr rfl⟩)
  · intro box inBoxes
    obtain ⟨member, inMembers, classes⟩ := (named box).mp inBoxes
    refine ⟨shown member, ?_, ?_⟩
    · rw [rowsShown]
      exact List.mem_map_of_mem (sort.perm.symm.subset inMembers)
    · rw [styleClasses_row]
      refine List.mem_append_left _ (List.mem_cons_of_mem _ ?_)
      cases classes with
      | inl kind => exact kind ▸ List.mem_cons_self
      | inr level => exact level ▸ List.mem_cons_of_mem _ List.mem_cons_self

theorem listing_sorted_and_filtered_overloads :
    let first : MemberSummary := ⟨"Run", .method, .publicLevel, true, "At once."⟩
    let second : MemberSummary := ⟨"Run", .method, .privateLevel, false, "Later."⟩
    let name : MemberSummary := ⟨"Name", .property, .protectedInternalLevel, false, ""⟩
    let widget : Declaration := { name := "Widget", members := [first, name, second] }
    let listing := Reference.listing widget
    widget.kind.isType = true ∧ widget.members ≠ [] ∧
      rows listing = [name, first, second].map (row "Widget") ∧
      (rows listing).map memberOf? = [some name, some first, some second] ∧
      links (row "Widget" first) = [(some "M:Widget.Run", some "#M:Widget.Run", "Run")] ∧
      (boxes listing).count "kind-method" = 1 ∧ (boxes listing).count "kind-event" = 0 := by
  intro first second name widget listing
  have isType : widget.kind.isType = true := rfl
  have nonempty : widget.members ≠ [] := List.cons_ne_nil _ _
  obtain ⟨members, _, unique, shown, readBack, _, named, ofRow, _⟩ :=
    (listing_sorted_and_filtered widget).1 isType nonempty
  have inOrder : sorted widget.members = [name, first, second] := by
    have methodLast : precedes first name = false := by decide
    have propertyFirst : precedes name second = true := by decide
    have tied : precedes first second = true := by decide
    simp [sorted, widget, List.mergeSort, methodLast, propertyFirst, tied]
  have order : members = [name, first, second] :=
    (unique _ (sorted_isStableSort widget.members)).symm.trans inOrder
  subst order
  obtain ⟨_, _, linksFirst, _, kindBox, _⟩ :=
    ofRow first (List.mem_cons_of_mem _ List.mem_cons_self)
  refine ⟨isType, nonempty, shown, readBack, linksFirst, kindBox, ?_⟩
  refine List.count_eq_zero.mpr fun offered => ?_
  obtain ⟨member, inMembers, same⟩ := (named _).mp offered
  revert member
  decide

end MemberListing

end DocPreview
