/-!
# Results of steps that may fail

Steps one after the other have a result exactly when each has one.
-/

set_option autoImplicit false

namespace DocPreview

variable {ε α β : Type}

theorem bind_eq_ok {first : Except ε α} {next : α → Except ε β} {result : β} :
    (first >>= next) = .ok result ↔ ∃ value, first = .ok value ∧ next value = .ok result := by
  cases first with
  | error failure => simp [bind, Except.bind]
  | ok value => simp [bind, Except.bind]

theorem mapM_eq_ok {f : α → Except ε β} {accepts : α → Prop} {g : α → β}
    (exact : ∀ item result, f item = .ok result ↔ accepts item ∧ result = g item)
    {items : List α} {results : List β} :
    items.mapM f = .ok results ↔ (∀ item ∈ items, accepts item) ∧ results = items.map g := by
  induction items generalizing results with
  | nil => simp [pure, Except.pure, eq_comm]
  | cons item items ih =>
      rw [List.mapM_cons, bind_eq_ok]
      simp only [bind_eq_ok, ih, exact, List.forall_mem_cons, List.map_cons]
      constructor
      · rintro ⟨_, ⟨accepted, rfl⟩, _, ⟨all, rfl⟩, same⟩
        exact ⟨⟨accepted, all⟩, (Except.ok.inj same).symm⟩
      · rintro ⟨⟨accepted, all⟩, rfl⟩
        exact ⟨_, ⟨accepted, rfl⟩, _, ⟨all, rfl⟩, rfl⟩

end DocPreview
