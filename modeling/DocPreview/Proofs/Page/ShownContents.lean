import DocPreview.Page.Style
import Mathlib.Data.List.Infix

/-!
# What handlers show of contents

Most handlers show all that the contents of an element say, and put something around it. The others
are named: they show a part of the contents, or their text in another layout, or nothing.
-/

set_option autoImplicit false

namespace DocPreview

namespace Html

theorem textContents_append (left right : List Html) :
    textContents (left ++ right) = textContents left ++ textContents right := by
  induction left with
  | nil => simp [textContents]
  | cons node left ih => simp [textContents, ih, String.append_assoc]

/-- The text of the fragment says the message somewhere. -/
def Occurs (message : String) (fragment : List Html) : Prop :=
  message.toList <:+: (textContents fragment).toList

instance (message : String) (fragment : List Html) : Decidable (Occurs message fragment) :=
  inferInstanceAs (Decidable (_ <:+: _))

namespace Occurs

variable {message : String} {fragment left right : List Html}

theorem append_left (occurs : Occurs message left) (right : List Html) :
    Occurs message (left ++ right) := by
  unfold Occurs
  rw [textContents_append, String.toList_append]
  exact List.infix_append_of_infix_left occurs

theorem append_right (occurs : Occurs message right) (left : List Html) :
    Occurs message (left ++ right) := by
  unfold Occurs
  rw [textContents_append, String.toList_append]
  exact List.infix_append_of_infix_right occurs

theorem cons (occurs : Occurs message fragment) (node : Html) :
    Occurs message (node :: fragment) :=
  occurs.append_right [node]

theorem inside {tag : String} {attributes : List (String × String)} {selfClosing : Bool}
    (occurs : Occurs message fragment) :
    Occurs message [.element tag attributes fragment selfClosing] := by
  unfold Occurs
  simp only [textContents, textContent, String.append_empty]
  exact occurs

theorem text {content : String} (within : message.toList <:+: content.toList) :
    Occurs message [.text content] := by
  unfold Occurs
  simp only [textContents, textContent, String.append_empty]
  exact within

theorem of_mem {node : Html} {nodes : List Html} (occurs : Occurs message [node])
    (member : node ∈ nodes) : Occurs message nodes := by
  obtain ⟨front, back, rfl⟩ := List.append_of_mem member
  exact append_right (append_left occurs back) front

theorem flatten {fragments : List (List Html)} (occurs : Occurs message fragment)
    (member : fragment ∈ fragments) : Occurs message fragments.flatten := by
  obtain ⟨front, back, rfl⟩ := List.append_of_mem member
  rw [List.flatten_append, List.flatten_cons]
  exact append_right (append_left occurs _) _

end Occurs

end Html

open Html (Occurs)

def Chrome.ShowsSections (chrome : Chrome) : Prop :=
  ∀ {id title : String} {contents : List Html} {message : String},
    Occurs message contents → Occurs message [chrome.titled id title contents]

theorem Classic.chrome_showsSections : Classic.chrome.ShowsSections := by
  intro id title contents message occurs
  exact (occurs.cons _).inside

theorem Reference.chrome_showsSections : Reference.chrome.ShowsSections := by
  intro id title contents message occurs
  exact (occurs.inside.cons _).inside.inside

/-- Of an element that is not blank, the handler shows all that the contents say. -/
def Handler.ShowsContents (handler : Handler) (tag : Tag) : Prop :=
  ∀ (setting : Setting) (message : String), tag.isBlank = false →
    Occurs message tag.contents.value → Occurs message (handler setting tag).value

namespace Content

variable {chrome : Chrome} (tag : Tag)

theorem wrap_showsContents (name : String) (attributes : List (String × String)) :
    (wrap name attributes).ShowsContents tag := by
  intro setting message _ occurs
  exact occurs.inside

theorem titledBlock_showsContents (sections : chrome.ShowsSections) (id title : String) :
    (titledBlock chrome id title).ShowsContents tag := by
  intro setting message _ occurs
  exact sections occurs

theorem threadSafety_showsContents (sections : chrome.ShowsSections) :
    (threadSafety chrome).ShowsContents tag := by
  intro setting message _ occurs
  exact sections (occurs.append_right _)

theorem preliminary_showsContents : preliminary.ShowsContents tag := by
  intro setting message shown occurs
  simp only [preliminary, shown, Bool.false_eq_true, ↓reduceIte]
  exact occurs.inside

theorem note_showsContents : note.ShowsContents tag := by
  intro setting message _ occurs
  exact (occurs.cons _).inside

theorem parameter_showsContents : parameter.ShowsContents tag := by
  intro setting message _ occurs
  exact (occurs.append_right _).inside.cons _

theorem typeParameter_showsContents : typeParameter.ShowsContents tag := by
  intro setting message _ occurs
  exact occurs.inside.cons _

theorem referenceRow_showsContents : referenceRow.ShowsContents tag := by
  intro setting message _ occurs
  exact (occurs.inside.cons _).inside

/-- A language word takes the place of the contents, unless there is a target to refer to. -/
def isLanguageWord (attributes : List (String × String)) : Bool :=
  (attributes.lookup "cref").isNone && (attributes.lookup "href").isNone &&
    (attributes.lookup "langword").isSome

theorem value_labelOf?_of_shown {tag : Tag} (shown : tag.isBlank = false) :
    (labelOf? tag).value = some tag.contents.value := by
  simp only [labelOf?, shown, Bool.false_eq_true, ↓reduceIte]
  rfl

theorem reference_showsContents {tag : Tag} (wordless : isLanguageWord tag.attributes = false) :
    reference.ShowsContents tag := by
  intro setting message shown occurs
  have label := value_labelOf?_of_shown shown
  unfold isLanguageWord at wordless
  unfold reference Tag.attribute?
  cases target : tag.attributes.lookup "cref" with
  | some target =>
      simp only [Rendered.value_bind, Rendered.value_pure, label]
      exact occurs.inside
  | none =>
      cases address : tag.attributes.lookup "href" with
      | some address =>
          simp only [Rendered.value_bind, Rendered.value_pure, label]
          exact occurs.inside
      | none =>
          cases word : tag.attributes.lookup "langword" with
          | some word => simp [target, address, word] at wordless
          | none => exact occurs

/-- The tags whose handlers show less than the contents, or show them in another layout. -/
def selectiveTags : List String :=
  ["code", "list", "see", "seealso", "typeparamref", "paramref", "include"]

theorem handlers_showContents (sections : chrome.ShowsSections) :
    ∀ entry ∈ handlers chrome, entry.1 ∈ selectiveTags ∨ entry.2.ShowsContents tag := by
  have selective : ∀ {name : String} {handler : Handler}, name ∈ selectiveTags →
      name ∈ selectiveTags ∨ handler.ShowsContents tag := .inl
  simp only [handlers, List.forall_mem_cons]
  exact ⟨.inr (wrap_showsContents tag _ _), .inr (titledBlock_showsContents tag sections _ _),
    .inr (parameter_showsContents tag), .inr (titledBlock_showsContents tag sections _ _),
    .inr (titledBlock_showsContents tag sections _ _), .inr (referenceRow_showsContents tag),
    .inr (referenceRow_showsContents tag), .inr (referenceRow_showsContents tag),
    .inr (titledBlock_showsContents tag sections _ _), selective (by decide),
    .inr (wrap_showsContents tag _ _), selective (by decide),
    .inr (wrap_showsContents tag _ _), .inr (wrap_showsContents tag _ _),
    selective (by decide), selective (by decide), .inr (note_showsContents tag),
    .inr (wrap_showsContents tag _ _), .inr (typeParameter_showsContents tag),
    selective (by decide), selective (by decide),
    .inr (threadSafety_showsContents tag sections), .inr (preliminary_showsContents tag),
    selective (by decide), fun _ none => absurd none List.not_mem_nil⟩

end Content

theorem Classic.obsolete_showsContents (tag : Tag) : Classic.obsolete.ShowsContents tag := by
  intro setting message shown occurs
  simp only [Classic.obsolete, shown, Bool.false_eq_true, ↓reduceIte]
  exact ((occurs.cons _).cons _).inside

theorem Reference.obsolete_showsContents (tag : Tag) : Reference.obsolete.ShowsContents tag := by
  intro setting message shown occurs
  simp only [Reference.obsolete, shown, Bool.false_eq_true, ↓reduceIte]
  exact ((occurs.cons _).cons _).inside

namespace Style

variable {styleName name : String} {style : Style}

/-- The handlers that all styles share come first. -/
theorem lookup_shared (named : ofName? styleName = some style) {handler : Handler}
    (shared : (Content.handlers style.toChrome).lookup name = some handler) :
    style.registry.lookup name = some handler := by
  obtain rfl | rfl := eq_of_ofName? named
  · exact congrArg (Option.or · none) (List.lookup_append.trans (congrArg (Option.or · _) shared))
  · exact congrArg (Option.or · none) (List.lookup_append.trans (congrArg (Option.or · _) shared))

theorem showsSections_of_ofName? (named : ofName? styleName = some style) :
    style.ShowsSections := by
  obtain rfl | rfl := eq_of_ofName? named
  · exact Classic.chrome_showsSections
  · exact Reference.chrome_showsSections

theorem exists_obsolete_showsContents (named : ofName? styleName = some style) :
    ∃ handler, style.registry.lookup "obsolete" = some handler ∧
      ∀ tag, handler.ShowsContents tag := by
  obtain rfl | rfl := eq_of_ofName? named
  · exact ⟨Classic.obsolete, rfl, Classic.obsolete_showsContents⟩
  · exact ⟨Reference.obsolete, rfl, Reference.obsolete_showsContents⟩

theorem lookup_isSome_of_recognized (chrome : Chrome) :
    ∀ name ∈ ({} : OptionSet).recognizedTags,
      name = "obsolete" ∨ ((Content.handlers chrome).lookup name).isSome := by
  have names : (Content.handlers chrome).map (·.1) = (Content.handlers Classic.chrome).map (·.1) :=
    rfl
  intro name recognized
  by_cases own : name = "obsolete"
  · exact .inl own
  · right
    have listed : name ∈ (Content.handlers chrome).map (·.1) := by
      rw [names]
      revert name
      decide
    obtain ⟨entry, member, rfl⟩ := List.mem_map.mp listed
    exact List.lookup_isSome_iff.mpr ⟨entry, member, BEq.rfl⟩

/-- With the usual tags recognized, each tag that is not selective has a handler that shows all
contents. -/
theorem exists_handler_showsContents (named : ofName? styleName = some style)
    (recognized : name ∈ ({} : OptionSet).recognizedTags)
    (ordinary : name ∉ Content.selectiveTags) :
    ∃ handler, style.registry.lookup name = some handler ∧
      ∀ tag, handler.ShowsContents tag := by
  cases lookup_isSome_of_recognized style.toChrome name recognized with
  | inl same =>
      rw [same]
      exact exists_obsolete_showsContents named
  | inr handled =>
      obtain ⟨handler, found⟩ := Option.isSome_iff_exists.mp handled
      refine ⟨handler, lookup_shared named found, fun tag => ?_⟩
      obtain ⟨front, back, split, _⟩ := List.lookup_eq_some_iff.mp found
      have member : (name, handler) ∈ Content.handlers style.toChrome := by
        rw [split]
        exact List.mem_append_right _ List.mem_cons_self
      have shown := Content.handlers_showContents tag (showsSections_of_ofName? named) _ member
      exact shown.resolve_left ordinary

end Style

end DocPreview
