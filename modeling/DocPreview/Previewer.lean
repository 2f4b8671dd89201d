import DocPreview.Comment.Parse
import DocPreview.Include.Expand
import DocPreview.Page.Style
import DocPreview.Signature.Cache

/-!
# Previewers

A previewer lives for a session. It holds the options and the style in force, the signatures of
the declaration asked for last, and the documents that includes were read from. Neither of the
two caches shows on a page.
-/

set_option autoImplicit false

namespace DocPreview

/-- What is made with the signature of a declaration, and the cache after it. The cache counts
as used only if the signature shows. -/
def SignatureCache.supply {α : Type} (cache : SignatureCache) (declaration : Declaration)
    (dialect : Dialect) (make : Signature → Rendered α) : α × SignatureCache :=
  let (signature, used) := cache.getOrRender declaration dialect
  let made := make signature
  (made.value, if made.showsSignature then used else cache)

structure PreviewRequest where
  declaration : Declaration
  dialect : Dialect
  /-- The comment with the markers on its lines. -/
  comment : String
  /-- The file that the declaration stands in, from which includes are looked up. -/
  source? : Option Path := none

structure Previewer where
  options : OptionSet
  style : Style
  signatures : SignatureCache := .empty
  documents : Include.Cache := {}

namespace Previewer

def signatureRenders (previewer : Previewer) : Nat :=
  previewer.signatures.renders

def setOptions (previewer : Previewer) (options : OptionSet) : Previewer :=
  { previewer with options }

def setStyle (previewer : Previewer) (style : Style) : Previewer :=
  { previewer with style }

/-- The markup of a comment with its includes replaced. -/
def renderBody (previewer : Previewer) (files : FileTree) (root : Element)
    (declaration : Declaration) (dialect : Dialect) (source? : Option Path) :
    List Html × Previewer :=
  let (root, documents) :=
    Include.Cache.resolve ⟨files, previewer.options.includeMode⟩ source? root
      previewer.documents
  let (body, signatures) :=
    previewer.signatures.supply declaration dialect fun signature =>
      previewer.style.applyRoot ⟨previewer.options, declaration, dialect, signature⟩ root
  (body, { previewer with signatures, documents })

def body (previewer : Previewer) (files : FileTree) (request : PreviewRequest) :
    List Html × Previewer :=
  previewer.renderBody files (Comment.parse request.dialect request.comment)
    request.declaration request.dialect request.source?

def page (previewer : Previewer) (files : FileTree) (request : PreviewRequest) :
    String × Previewer :=
  let (body, next) := previewer.body files request
  (previewer.style.pageText body, next)

end Previewer

end DocPreview
