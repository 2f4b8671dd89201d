import DocPreview.Page.Layout

/-!
# The classic style

Plain sections under headings, and a coloured banner for obsolete members.
-/

set_option autoImplicit false

namespace DocPreview.Classic

def skeletonLines : List String :=
  ["<!DOCTYPE html>",
   "<html>",
   "<head>",
   "<meta charset=\"utf-8\">",
   "<style>",
   "body \x7b font-family: system-ui, sans-serif; max-width: 52em; margin: 1.5em auto; " ++
     "padding: 0 1em; \x7d",
   "code \x7b background: #f4f4f4; padding: 0.1em 0.3em; border-radius: 3px; \x7d",
   "pre \x7b background: #f4f4f4; padding: 0.8em 1em; border-radius: 4px; overflow-x: " ++
     "auto; \x7d",
   "pre code \x7b background: none; padding: 0; \x7d",
   ".banner \x7b border-bottom: 1px solid #ccc; margin-bottom: 1em; \x7d",
   ".banner h1 \x7b margin: 0.2em 0; font-size: 1.6em; \x7d",
   ".breadcrumb, .dialect \x7b color: #666; margin: 0; font-size: 0.9em; \x7d",
   ".section h2 \x7b font-size: 1.15em; border-bottom: 1px solid #eee; \x7d",
   ".syntax .keyword \x7b color: #0000ff; \x7d",
   ".syntax .type, .syntax .reference \x7b color: #2b91af; \x7d",
   ".syntax .parameter \x7b font-style: italic; \x7d",
   ".syntax .literal \x7b color: #a31515; \x7d",
   ".syntax .unsupported \x7b color: #888; font-style: italic; \x7d",
   ".parameter, .typeparameter \x7b font-style: italic; \x7d",
   ".error \x7b color: #b00; background: #fee; padding: 0.3em 0.6em; \x7d",
   ".unrecognized \x7b background: #ffd; font-family: monospace; \x7d",
   ".obsolete-banner \x7b background: #c00; color: white; padding: 0.4em 0.8em; " ++
     "border-radius: 3px; \x7d",
   ".preliminary \x7b color: #a60; font-style: italic; \x7d",
   ".note \x7b border-left: 4px solid #58a; padding: 0.2em 0.8em; background: #f5f8fc; \x7d",
   ".note-title \x7b font-weight: bold; margin: 0.3em 0; \x7d",
   "table.two-column, table.list \x7b border-collapse: collapse; \x7d",
   "table.two-column td, table.two-column th, table.list td, table.list th \x7b border: " ++
     "1px solid #ddd; padding: 0.3em 0.6em; text-align: left; \x7d",
   "dt \x7b margin-top: 0.5em; \x7d",
   "dd \x7b margin-left: 1.5em; \x7d",
   "</style>",
   "</head>",
   "<body class=\"classic\">",
   "<!--xmldoc:body-->",
   "</body>",
   "</html>"]

def banner (declaration : Declaration) (dialect : Dialect) : Html :=
  let scope := ".".intercalate declaration.path.dropLast
  let breadcrumb := if scope.isEmpty then [] else [.classed "p" "breadcrumb" [.text scope]]
  .classed "div" "banner"
    (breadcrumb ++
      [.tagged "h1" [] [.text (declaration.name ++ " " ++ declaration.kind.description)],
       .classed "p" "dialect" [.text dialect.displayName]])

def titled (id title : String) (contents : List Html) : Html :=
  .tagged "div" [("class", "section"), ("id", id)]
    (.tagged "h2" [] [.text title] :: contents)

def chrome : Chrome := ⟨banner, titled⟩

def obsolete : Handler := fun _ tag => do
  let notice := Html.tagged "strong" [] [.text "Obsolete."]
  if tag.isBlank then return [.classed "div" "obsolete-banner" [notice]]
  else
    let contents ← tag.contents
    return [.classed "div" "obsolete-banner" (notice :: .text " " :: contents)]

def style : Style where
  toChrome := chrome
  name := "classic"
  skeleton := String.join (skeletonLines.map (· ++ "\n"))
  registry :=
    ⟨Content.handlers chrome ++
      [(rootTag, Layout.page chrome fun _ => []), ("obsolete", obsolete)], none⟩

end DocPreview.Classic
