import DocPreview.Proofs.Page.ShownContents

/-!
# The entries of a list

A list shows its first header and its items, and of each of them a term and a description. Every
layout shows all of that.
-/

set_option autoImplicit false

namespace DocPreview

open Html (Occurs)

theorem Rendered.value_mapM {α β : Type} (f : α → Rendered β) (items : List α) :
    (items.mapM f).value = items.map fun item => (f item).value := by
  have loop : ∀ (items : List α) (done : List β),
      (List.mapM.loop f items done).value =
        done.reverse ++ items.map fun item => (f item).value := by
    intro items
    induction items with
    | nil =>
        intro done
        simp [List.mapM.loop]
    | cons item items ih =>
        intro done
        simp [List.mapM.loop, ih]
  exact loop items []

namespace Content

/-- The term of an entry, and its description, for which all contents stand when it has neither. -/
theorem value_termAndDescription (entry : Tag) :
    (termAndDescription entry).value =
      ((entry.find? "term").map (·.contents.value),
        match entry.find? "description" with
        | some description => description.contents.value
        | none => if (entry.find? "term").isSome then [] else entry.contents.value) := by
  unfold termAndDescription
  cases entry.find? "term" with
  | none =>
      cases entry.find? "description" with
      | none => rfl
      | some description => rfl
  | some term =>
      cases entry.find? "description" with
      | none => rfl
      | some description => rfl

theorem value_listEntries (tag : Tag) :
    (listEntries tag).value =
      ((tag.find? "listheader").map fun header =>
          (true, (termAndDescription header).value)).toList ++
        (tag.childTags.filter (·.name == "item")).map fun item =>
          (false, (termAndDescription item).value) := by
  unfold listEntries
  cases tag.find? "listheader" with
  | none => simp [Rendered.value_mapM]
  | some header => simp [Rendered.value_mapM]

def OccursInParts (message : String) (parts : Option (List Html) × List Html) : Prop :=
  Occurs message (parts.1.getD []) ∨ Occurs message parts.2

variable {message : String} {term : Option (List Html)} {description : List Html}

theorem entryRow_occurs (isHeader : Bool) (occurs : OccursInParts message (term, description)) :
    Occurs message [entryRow isHeader term description] := by
  refine Occurs.inside ?_
  cases occurs with
  | inl inTerm => exact inTerm.inside.append_left [_]
  | inr inDescription => exact inDescription.inside.cons _

theorem entryDefinition_occurs (occurs : OccursInParts message (term, description)) :
    Occurs message (entryDefinition term description) := by
  cases occurs with
  | inl inTerm => exact inTerm.inside.append_left [_]
  | inr inDescription => exact inDescription.inside.cons _

theorem entryItem_occurs (isHeader : Bool) (occurs : OccursInParts message (term, description)) :
    Occurs message [entryItem isHeader term description] := by
  refine Occurs.inside ?_
  cases occurs with
  | inl inTerm =>
      refine Occurs.append_left ?_ _
      cases term with
      | none => exact inTerm
      | some term => exact inTerm.inside.append_left [_]
  | inr inDescription => exact inDescription.append_right _

/-- Whatever the layout, a list shows all parts of its entries. -/
theorem listLayout_occurs (type : String)
    {entries : List (Bool × Option (List Html) × List Html)}
    {entry : Bool × Option (List Html) × List Html} (member : entry ∈ entries)
    (occurs : OccursInParts message entry.2) : Occurs message [listLayout type entries] := by
  obtain ⟨isHeader, term, description⟩ := entry
  unfold listLayout
  split
  · refine Occurs.inside ((entryRow_occurs isHeader occurs).of_mem ?_)
    exact List.mem_map.mpr ⟨_, member, rfl⟩
  · refine Occurs.inside ?_
    rw [List.flatMap_def]
    refine (entryDefinition_occurs occurs).flatten ?_
    exact List.mem_map.mpr ⟨_, member, rfl⟩
  · refine Occurs.inside ((entryItem_occurs isHeader occurs).of_mem ?_)
    exact List.mem_map.mpr ⟨_, member, rfl⟩

end Content

end DocPreview
