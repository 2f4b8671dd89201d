import DocPreview.Signature.Render

/-!
# The signature cache

The cache holds the signatures of one declaration, at most one for each dialect. A declaration
with another identity drops them all, and so does the same declaration once it is edited: the
identity leaves out most of what a signature shows, so the declaration itself is kept beside it.
-/

set_option autoImplicit false

namespace DocPreview

/-- The identity of a declaration: where it stands and what overloads are told apart by. -/
structure SignatureKey where
  /-- The names around the declaration, outermost first, and its own. -/
  path : List String
  parameterTypes : List String
  genericArity : Nat
deriving DecidableEq, Repr

def SignatureKey.ofDeclaration (declaration : Declaration) : SignatureKey :=
  ⟨declaration.path, declaration.parameterTypes, declaration.genericArity⟩

/-- Rendered signatures of the declaration asked for last. -/
structure SignatureCache where
  /-- The identity of the declaration asked for last. -/
  active : Option SignatureKey := none
  /-- The declaration that the entries were rendered from. -/
  renderedFrom : Option Declaration := none
  entries : List ((SignatureKey × Dialect) × Signature) := []
  /-- How often a signature has been rendered since the cache was made. -/
  renders : Nat := 0

namespace SignatureCache

def empty : SignatureCache := {}

def size (cache : SignatureCache) : Nat :=
  cache.entries.length

/-- The cache made ready for a declaration. The entries stay only if they were rendered from
this very declaration. -/
def activate (cache : SignatureCache) (declaration : Declaration) : SignatureCache :=
  let key := SignatureKey.ofDeclaration declaration
  if cache.active ≠ some key then
    { cache with active := some key, renderedFrom := some declaration, entries := [] }
  else if cache.renderedFrom ≠ some declaration then
    { cache with renderedFrom := some declaration, entries := [] }
  else cache

/-- The signature of the declaration, rendered only if the cache does not hold it. -/
def getOrRender (cache : SignatureCache) (declaration : Declaration) (dialect : Dialect) :
    Signature × SignatureCache :=
  let cache := cache.activate declaration
  let key := (SignatureKey.ofDeclaration declaration, dialect)
  match cache.entries.lookup key with
  | some signature => (signature, cache)
  | none =>
    let signature := Signature.render declaration dialect
    (signature,
      { cache with
        entries := (key, signature) :: cache.entries, renders := cache.renders + 1 })

/-- The cache without its entries. The count of renders goes on. -/
def invalidate (cache : SignatureCache) : SignatureCache :=
  { cache with active := none, renderedFrom := none, entries := [] }

end SignatureCache

end DocPreview
