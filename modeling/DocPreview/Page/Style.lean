import DocPreview.Page.Classic
import DocPreview.Page.Reference

/-!
# Styles by name, and whole pages
-/

set_option autoImplicit false

namespace DocPreview.Style

def ofName? : String → Option Style
  | "classic" => some Classic.style
  | "reference" => some Reference.style
  | _ => none

theorem eq_of_ofName? {name : String} {style : Style} (named : ofName? name = some style) :
    style = Classic.style ∨ style = Reference.style := by
  unfold ofName? at named
  split at named
  · exact .inl (Option.some.inj named).symm
  · exact .inr (Option.some.inj named).symm
  · cases named

def unknownMessage (name : String) : String :=
  "unknown style: " ++ name ++ ". Use classic or reference"

/-- The tags that the options recognize and the style shows nothing for. -/
def unhandledTags (style : Style) (options : OptionSet) : List String :=
  style.registry.unhandled options.recognizedTags

/-- The page around a body. The body takes the place of the first mark of the skeleton. -/
def pageText (style : Style) (body : List Html) : String :=
  match Text.splitAtFirst? bodyMark.toList style.skeleton.toList with
  | some (before, after) =>
    String.ofList before ++ Html.writeAll body ++ String.ofList after
  | none => style.skeleton

end DocPreview.Style
