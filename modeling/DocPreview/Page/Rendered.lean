/-!
# Rendered values

The signature of a declaration is costly to render, and a cache that holds it counts as used
only when something on the page shows it. A rendered value therefore carries a note whether it
was made from the signature. The note of a composition is that of its parts, also of those
whose value is not used further.
-/

set_option autoImplicit false

namespace DocPreview

/-- A value with the note whether it was made from the signature. -/
structure Rendered (α : Type) where
  value : α
  showsSignature : Bool := false
deriving DecidableEq, Inhabited

namespace Rendered

instance : Monad Rendered where
  pure value := ⟨value, false⟩
  bind source next :=
    let result := next source.value
    ⟨result.value, source.showsSignature || result.showsSignature⟩

def concat {α : Type} : List (Rendered (List α)) → Rendered (List α)
  | [] => ⟨[], false⟩
  | first :: rest =>
    let tail := concat rest
    ⟨first.value ++ tail.value, first.showsSignature || tail.showsSignature⟩

@[simp] theorem value_pure {α : Type} (value : α) : (pure value : Rendered α).value = value := rfl

@[simp] theorem value_bind {α β : Type} (source : Rendered α) (next : α → Rendered β) :
    (source >>= next).value = (next source.value).value := rfl

@[simp] theorem showsSignature_pure {α : Type} (value : α) :
    (pure value : Rendered α).showsSignature = false := rfl

@[simp] theorem showsSignature_bind {α β : Type} (source : Rendered α)
    (next : α → Rendered β) :
    (source >>= next).showsSignature =
      (source.showsSignature || (next source.value).showsSignature) := rfl

@[simp] theorem value_map {α β : Type} (f : α → β) (source : Rendered α) :
    (f <$> source).value = f source.value := rfl

/-- Only the parts decide the value of a concatenation. -/
theorem value_concat {α : Type} (parts : List (Rendered (List α))) :
    (concat parts).value = parts.flatMap (·.value) := by
  induction parts with
  | nil => rfl
  | cons first rest ih => simp [concat, ih]

/-- A concatenation shows the signature when one of its parts does. -/
theorem showsSignature_concat {α : Type} (parts : List (Rendered (List α))) :
    (concat parts).showsSignature = parts.any (·.showsSignature) := by
  induction parts with
  | nil => rfl
  | cons first rest ih => simp [concat, ih]

end Rendered

end DocPreview
