import DocPreview.Page.Layout
import DocPreview.Page.MemberListing

/-!
# The reference style

Sections that fold, and for types a listing of the members that can be filtered.
-/

set_option autoImplicit false

namespace DocPreview.Reference

def skeletonLines : List String :=
  ["<!DOCTYPE html>",
   "<html>",
   "<head>",
   "<meta charset=\"utf-8\">",
   "<style>",
   "body \x7b font-family: \"Segoe UI\", system-ui, sans-serif; margin: 0; padding: 0 " ++
     "1.5em 1.5em; \x7d",
   "header.title \x7b background: #1f3b5a; color: white; margin: 0 -1.5em 1em; padding: " ++
     "0.8em 1.5em; \x7d",
   "header.title h1 \x7b margin: 0.2em 0; font-size: 1.5em; \x7d",
   ".crumb + .crumb::before \x7b content: \" \\203A \"; \x7d",
   ".language \x7b font-size: 0.85em; opacity: 0.85; \x7d",
   "details > summary \x7b font-weight: bold; font-size: 1.1em; cursor: pointer; " ++
     "margin: 0.8em 0 0.4em; \x7d",
   "pre \x7b background: #f6f6f6; border: 1px solid #e0e0e0; padding: 0.7em; " ++
     "overflow-x: auto; \x7d",
   ".syntax .keyword \x7b color: #00f; \x7d",
   ".syntax .type, .syntax .reference \x7b color: #2b91af; \x7d",
   ".syntax .literal \x7b color: #a31515; \x7d",
   ".syntax .unsupported \x7b color: #888; font-style: italic; \x7d",
   ".parameter, .typeparameter \x7b font-style: italic; \x7d",
   ".error \x7b color: #b00; border: 1px solid #b00; padding: 0.3em 0.6em; \x7d",
   ".unrecognized \x7b background: #ffd; font-family: monospace; \x7d",
   ".obsolete .label \x7b font-weight: bold; color: #b00; \x7d",
   ".preliminary \x7b color: #a60; \x7d",
   ".note \x7b border: 1px solid #bcd; padding: 0.2em 0.8em; \x7d",
   ".note-title \x7b font-weight: bold; \x7d",
   "table \x7b border-collapse: collapse; \x7d",
   "td, th \x7b border-bottom: 1px solid #ddd; padding: 0.3em 0.6em; text-align: left; " ++
     "vertical-align: top; \x7d",
   ".filters label \x7b margin-right: 1em; font-size: 0.9em; \x7d",
   ".icon \x7b display: inline-block; width: 1em; height: 1em; border-radius: 2px; " ++
     "margin-right: 2px; background: #68a; \x7d",
   ".icon-static \x7b background: #c80; \x7d",
   ".hide-kind-constructor .kind-constructor, .hide-kind-method .kind-method,",
   ".hide-kind-property .kind-property, .hide-kind-event .kind-event,",
   ".hide-kind-field .kind-field, .hide-kind-operator .kind-operator,",
   ".hide-visibility-public .visibility-public, .hide-visibility-protected " ++
     ".visibility-protected,",
   ".hide-visibility-internal .visibility-internal, .hide-visibility-protected-internal " ++
     ".visibility-protected-internal,",
   ".hide-visibility-private .visibility-private \x7b display: none; \x7d",
   "</style>",
   "</head>",
   "<body class=\"reference\">",
   "<!--xmldoc:body-->",
   "<script>",
   "document.querySelectorAll('.filters input').forEach(function (box) \x7b",
   "  box.addEventListener('change', function () \x7b",
   "    document.body.classList.toggle('hide-' + box.dataset.filter, !box.checked);",
   "  \x7d);",
   "\x7d);",
   "</script>",
   "</body>",
   "</html>"]

/-- The name in the heading. That of a member stands behind the name of its type. -/
def heading (declaration : Declaration) : String :=
  let name :=
    match declaration.parentName? with
    | some parent =>
      if declaration.kind.isType then declaration.name
      else parent ++ "." ++ declaration.name
    | none => declaration.name
  name ++ " " ++ declaration.kind.description

def banner (declaration : Declaration) (dialect : Dialect) : Html :=
  .classed "header" "title"
    [.classed "nav" "breadcrumb"
      (declaration.path.dropLast.map fun segment => .classed "span" "crumb" [.text segment]),
     .tagged "h1" [] [.text (heading declaration)],
     .classed "div" "language"
      [.text "Language: ", .tagged "span" [] [.text dialect.displayName]]]

def titled (id title : String) (contents : List Html) : Html :=
  .tagged "section" [("id", id)]
    [.tagged "details" [("open", "open")]
      [.tagged "summary" [] [.text title], .classed "div" "content" contents]]

def chrome : Chrome := ⟨banner, titled⟩

def obsolete : Handler := fun _ tag => do
  let notice := Html.classed "span" "label" [.text "Obsolete."]
  if tag.isBlank then return [.classed "p" "obsolete" [notice]]
  else
    let contents ← tag.contents
    return [.classed "p" "obsolete" (notice :: .text " " :: contents)]

def listing (declaration : Declaration) : List Html :=
  ((MemberListing.markup? declaration).map (titled "members" "Members")).toList

def style : Style where
  toChrome := chrome
  name := "reference"
  skeleton := String.join (skeletonLines.map (· ++ "\n"))
  registry :=
    ⟨Content.handlers chrome ++
      [(rootTag, Layout.page chrome listing), ("obsolete", obsolete)], none⟩

end DocPreview.Reference
