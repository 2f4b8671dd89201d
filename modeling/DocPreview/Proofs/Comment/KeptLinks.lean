import DocPreview.Comment.Links

/-!
# Which references are kept

Whether an item is kept depends on the earlier items of the same key alone. So references can be
dropped before or after the items are sorted into groups, as long as a group takes all items of a
key or none.
-/

set_option autoImplicit false

namespace DocPreview

section

variable {α β κ : Type} [BEq κ]

theorem keepFirst_sublist (key? : α → Option κ) (seen : List κ) (items : List α) :
    (keepFirst key? seen items).Sublist items := by
  induction items generalizing seen with
  | nil => exact .slnil
  | cons item items ih =>
      simp only [keepFirst]
      split
      · exact (ih seen).cons_cons item
      · split
        · exact (ih seen).cons item
        · exact (ih _).cons_cons item

theorem keepFirst_map (key? : β → Option κ) (f : α → β) (seen : List κ) (items : List α) :
    keepFirst key? seen (items.map f) =
      (keepFirst (fun item => key? (f item)) seen items).map f := by
  induction items generalizing seen with
  | nil => rfl
  | cons item items ih =>
      simp only [List.map_cons, keepFirst]
      split
      · simp [ih]
      · split <;> simp [ih]

/-- Of the keys seen before only those of the items matter. -/
theorem keepFirst_congr {key? : α → Option κ} {seen other : List κ} {items : List α}
    (alike : ∀ item ∈ items, ∀ key, key? item = some key →
      seen.contains key = other.contains key) :
    keepFirst key? seen items = keepFirst key? other items := by
  induction items generalizing seen other with
  | nil => rfl
  | cons item items ih =>
      have rest : ∀ later ∈ items, ∀ key, key? later = some key →
          seen.contains key = other.contains key :=
        fun later member => alike later (List.mem_cons_of_mem item member)
      simp only [keepFirst]
      cases keyed : key? item with
      | none => simp only [ih rest]
      | some key =>
          simp only [alike item List.mem_cons_self key keyed, ih rest]
          split
          · rfl
          · congr 1
            apply ih
            intro later member laterKey laterKeyed
            simp only [List.contains_cons, rest later member laterKey laterKeyed]

/-- An item whose key was not seen before stays, behind what is kept of the earlier ones. -/
theorem exists_keepFirst_append [LawfulBEq κ] {key? : α → Option κ} {item : α} {seen : List κ}
    {before : List α} (after : List α)
    (first : ∀ key, key? item = some key →
      key ∉ seen ∧ ∀ earlier ∈ before, key? earlier ≠ some key) :
    ∃ rest, keepFirst key? seen (before ++ item :: after) =
      keepFirst key? seen before ++ item :: rest := by
  induction before generalizing seen with
  | nil =>
      simp only [List.nil_append, keepFirst]
      cases keyed : key? item with
      | none => exact ⟨_, rfl⟩
      | some key => exact ⟨keepFirst key? (key :: seen) after, by simp [(first key keyed).1]⟩
  | cons other before ih =>
      have rest : ∀ key, key? item = some key →
          key ∉ seen ∧ ∀ earlier ∈ before, key? earlier ≠ some key := by
        intro key keyed
        obtain ⟨unseen, different⟩ := first key keyed
        exact ⟨unseen, fun earlier member => different earlier (List.mem_cons_of_mem _ member)⟩
      simp only [List.cons_append, keepFirst]
      cases otherKeyed : key? other with
      | none =>
          obtain ⟨later, split⟩ := ih rest
          exact ⟨later, by simp only [split, List.cons_append]⟩
      | some otherKey =>
          by_cases repeated : seen.contains otherKey
          · simp only [repeated, ↓reduceIte]
            exact ih rest
          · have fresh : ∀ key, key? item = some key →
                key ∉ otherKey :: seen ∧ ∀ earlier ∈ before, key? earlier ≠ some key := by
              intro key keyed
              obtain ⟨unseen, different⟩ := rest key keyed
              refine ⟨fun seenNow => ?_, different⟩
              cases List.mem_cons.mp seenNow with
              | inl same =>
                  exact (first key keyed).2 other List.mem_cons_self (same ▸ otherKeyed)
              | inr member => exact unseen member
            obtain ⟨later, split⟩ := ih fresh
            refine ⟨later, ?_⟩
            simp only [repeated, Bool.false_eq_true, ↓reduceIte, split, List.cons_append]

/-- A choice that items of one key share commutes with dropping the repeated ones. -/
theorem filter_keepFirst [LawfulBEq κ] {key? : α → Option κ} {chosen : α → Bool}
    (shared : ∀ first second key, key? first = some key → key? second = some key →
      chosen first = chosen second) (seen : List κ) (items : List α) :
    (keepFirst key? seen items).filter chosen = keepFirst key? seen (items.filter chosen) := by
  induction items generalizing seen with
  | nil => rfl
  | cons item items ih =>
      cases keyed : key? item with
      | none =>
          by_cases picked : chosen item
          · simp [keepFirst, keyed, picked, ih]
          · simp [keepFirst, keyed, picked, ih]
      | some key =>
          by_cases repeated : key ∈ seen
          · by_cases picked : chosen item
            · simp [keepFirst, keyed, picked, repeated, ih]
            · simp [keepFirst, keyed, picked, repeated, ih]
          · by_cases picked : chosen item
            · simp [keepFirst, keyed, picked, repeated, ih]
            · -- The key is seen from here on, but no item of the group has it.
              have unused : ∀ later ∈ items.filter chosen, ∀ laterKey,
                  key? later = some laterKey →
                    (key :: seen).contains laterKey = seen.contains laterKey := by
                intro later member laterKey laterKeyed
                have different : laterKey ≠ key := by
                  rintro rfl
                  have same := shared later item laterKey laterKeyed keyed
                  exact picked (same ▸ (List.mem_filter.mp member).2)
                simp [different]
              simp [keepFirst, keyed, picked, repeated, ih, keepFirst_congr unused]

end

/-- A node with a target is an element of the name in its key. -/
theorem Node.linkTarget?_eq_some {node : Node} {key : String × String}
    (keyed : node.linkTarget? = some key) :
    ∃ attributes children, node = .element key.1 attributes children := by
  cases node with
  | text content => cases keyed
  | element name attributes children =>
      simp only [Node.linkTarget?, DocPreview.linkTarget?] at keyed
      split at keyed
      · obtain ⟨target, _, rfl⟩ := Option.map_eq_some_iff.mp keyed
        exact ⟨attributes, children, rfl⟩
      · cases keyed

/-- A node that does not repeat a reference before it is kept, with some of those before it. -/
theorem Node.exists_kept_split {node : Node} {before : List Node}
    (fresh : ∀ target, node.linkTarget? = some target →
      ∀ earlier ∈ before, earlier.linkTarget? ≠ some target) (after : List Node) :
    ∃ front back, keepFirst Node.linkTarget? [] (before ++ node :: after) = front ++ node :: back ∧
      ∀ earlier ∈ front, earlier ∈ before := by
  have unseen : ∀ target, node.linkTarget? = some target →
      target ∉ ([] : List (String × String)) ∧
        ∀ earlier ∈ before, earlier.linkTarget? ≠ some target := by
    intro target keyed
    exact ⟨List.not_mem_nil, fresh target keyed⟩
  obtain ⟨rest, split⟩ := exists_keepFirst_append after unseen
  exact ⟨_, rest, split, fun _ member => (keepFirst_sublist _ _ _).subset member⟩

end DocPreview
