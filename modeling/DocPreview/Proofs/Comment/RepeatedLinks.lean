import DocPreview.Proofs.Comment.KeptLinks

/-!
# What is dropped as a repetition

An item is dropped exactly when an earlier one has its key. So every key is kept once, in the order
in which the keys come first, and where no key comes twice nothing is dropped. The key of a
reference is its tag with the first of its attributes that can name a target.
-/

set_option autoImplicit false

namespace DocPreview

section

variable {α κ : Type} {key? : α → Option κ}

/-- The keys that were seen are those of the items so far. -/
def Records (key? : α → Option κ) (seen : List κ) (earlier : List α) : Prop :=
  ∀ key, key ∈ seen ↔ ∃ other ∈ earlier, key? other = some key

namespace Records

variable {seen : List κ} {earlier : List α} {item : α} {key : κ}

theorem append_keyless (records : Records key? seen earlier) (keyed : key? item = none) :
    Records key? seen (earlier ++ [item]) := by
  intro key
  simp [keyed, records key, or_and_right, exists_or]

theorem append_new (records : Records key? seen earlier) (keyed : key? item = some key) :
    Records key? (key :: seen) (earlier ++ [item]) := by
  intro other
  simp [keyed, records other, or_and_right, exists_or, eq_comm, or_comm]

theorem append_repeated (records : Records key? seen earlier) (keyed : key? item = some key)
    (repeated : key ∈ seen) : Records key? seen (earlier ++ [item]) := by
  intro other
  rw [← records.append_new keyed other, List.mem_cons, or_iff_right_of_imp]
  exact fun same => same ▸ repeated

end Records

variable [BEq κ]

/-- The item has a key that one of the earlier items has as well. -/
def repeatsKey (key? : α → Option κ) (earlier : List α) (item : α) : Bool :=
  (key? item).any fun key => earlier.any fun other => key? other == some key

/-- The keys that are kept are the new ones, each once, in the order of their first items. -/
theorem filterMap_keepFirst (seen : List κ) (items : List α) :
    (keepFirst key? seen items).filterMap key? =
      ((items.filterMap key?).filter fun key => !seen.contains key).eraseDups := by
  induction items generalizing seen with
  | nil => rfl
  | cons item items ih =>
      cases keyed : key? item with
      | none => simp only [keepFirst, keyed, List.filterMap_cons, ih]
      | some key =>
          by_cases repeated : seen.contains key
          · simp only [keepFirst, keyed, repeated, ↓reduceIte, List.filterMap_cons,
              List.filter_cons, Bool.not_true, Bool.false_eq_true, ih]
          · have others : (items.filterMap key?).filter (fun other => !(key :: seen).contains other) =
                ((items.filterMap key?).filter fun other => !seen.contains other).filter
                  fun other => !other == key := by
              simp only [List.contains_cons, Bool.not_or, List.filter_filter]
            simp only [keepFirst, keyed, repeated, Bool.false_eq_true, ↓reduceIte,
              List.filterMap_cons, List.filter_cons, Bool.not_false, List.eraseDups_cons, ih,
              others]

variable [LawfulBEq κ]

theorem Records.repeatsKey_eq {seen : List κ} {earlier : List α} {item : α} {key : κ}
    (records : Records key? seen earlier) (keyed : key? item = some key) :
    repeatsKey key? earlier item = seen.contains key := by
  rw [Bool.eq_iff_iff, List.contains_iff_mem, records]
  simp [repeatsKey, keyed]

/-- The induction is on the items that are left; those before them stand for the keys that were
seen. -/
theorem keepFirst_eq_filter {seen : List κ} (earlier items : List α)
    (records : Records key? seen earlier) :
    keepFirst key? seen items =
      ((items.zipIdx earlier.length).filter fun entry =>
        !repeatsKey key? ((earlier ++ items).take entry.2) entry.1).map (·.1) := by
  induction items generalizing seen earlier with
  | nil => rfl
  | cons item items ih =>
      have onward : earlier ++ item :: items = (earlier ++ [item]) ++ items := by
        rw [List.append_assoc, List.singleton_append]
      have next : (earlier ++ [item]).length = earlier.length + 1 := by
        rw [List.length_append, List.length_singleton]
      have before : ((earlier ++ [item]) ++ items).take earlier.length = earlier := by
        rw [List.append_assoc, List.take_left]
      rw [List.zipIdx_cons, List.filter_cons, onward, before, ← next]
      cases keyed : key? item with
      | none =>
          have kept : repeatsKey key? earlier item = false := by simp [repeatsKey, keyed]
          simp only [keepFirst, keyed, kept, Bool.not_false, ↓reduceIte, List.map_cons,
            ih _ (records.append_keyless keyed)]
      | some key =>
          by_cases repeated : seen.contains key
          · have rest := records.append_repeated keyed (List.contains_iff_mem.mp repeated)
            simp only [keepFirst, keyed, records.repeatsKey_eq keyed, repeated, ↓reduceIte,
              Bool.not_true, Bool.false_eq_true, ih _ rest]
          · simp only [keepFirst, keyed, records.repeatsKey_eq keyed, repeated, ↓reduceIte,
              Bool.not_false, Bool.false_eq_true, List.map_cons, ih _ (records.append_new keyed)]

theorem nodup_filterMap_keepFirst (seen : List κ) (items : List α) :
    ((keepFirst key? seen items).filterMap key?).Nodup := by
  induction items generalizing seen with
  | nil => exact List.nodup_nil
  | cons item items ih =>
      cases keyed : key? item with
      | none => simpa only [keepFirst, keyed, List.filterMap_cons] using ih seen
      | some key =>
          by_cases repeated : seen.contains key
          · simpa only [keepFirst, keyed, repeated, ↓reduceIte] using ih seen
          · have absent : key ∉ (keepFirst key? (key :: seen) items).filterMap key? := by
              rw [filterMap_keepFirst, List.mem_eraseDups]
              simp
            simp only [keepFirst, keyed, repeated, Bool.false_eq_true, ↓reduceIte,
              List.filterMap_cons]
            exact List.nodup_cons.mpr ⟨absent, ih _⟩

/-- Where no key comes twice nothing is dropped. -/
theorem keepFirst_eq_self {seen : List κ} {items : List α}
    (once : (items.filterMap key?).Nodup) (fresh : ∀ key ∈ items.filterMap key?, key ∉ seen) :
    keepFirst key? seen items = items := by
  induction items generalizing seen with
  | nil => rfl
  | cons item items ih =>
      cases keyed : key? item with
      | none =>
          rw [List.filterMap_cons_none keyed] at once fresh
          simp only [keepFirst, keyed, ih once fresh]
      | some key =>
          rw [List.filterMap_cons_some keyed] at once fresh
          obtain ⟨first, rest⟩ := List.forall_mem_cons.mp fresh
          obtain ⟨absent, later⟩ := List.nodup_cons.mp once
          have unseen : ∀ other ∈ items.filterMap key?, other ∉ key :: seen := by
            intro other member seenNow
            cases List.mem_cons.mp seenNow with
            | inl same => exact absent (same ▸ member)
            | inr before => exact rest other member before
          simp [keepFirst, keyed, first, ih later unseen]

theorem filter_keyless_keepFirst (seen : List κ) (items : List α) :
    (keepFirst key? seen items).filter (fun item => (key? item).isNone) =
      items.filter fun item => (key? item).isNone := by
  have keyless : (items.filter fun item => (key? item).isNone).filterMap key? = [] := by
    rw [List.filterMap_eq_nil_iff]
    intro item member
    exact Option.isNone_iff_eq_none.mp (List.mem_filter.mp member).2
  have shared : ∀ first second key, key? first = some key → key? second = some key →
      (key? first).isNone = (key? second).isNone := by
    intro first second key keyedFirst keyedSecond
    rw [keyedFirst, keyedSecond]
  rw [filter_keepFirst shared]
  refine keepFirst_eq_self ?_ ?_
  · rw [keyless]
    exact List.nodup_nil
  · rw [keyless]
    exact fun key member => absurd member List.not_mem_nil

end

/-! ## References -/

inductive LinkForm where
  | code
  | address
  | word
deriving DecidableEq

namespace LinkForm

def attributeName : LinkForm → String
  | .code => "cref"
  | .address => "href"
  | .word => "langword"

/-- The attributes that come first. A reference that has one of them is of another form. -/
def overruling : LinkForm → List String
  | .code => []
  | .address => ["cref"]
  | .word => ["cref", "href"]

end LinkForm

/-- The node is a reference of this tag that names the target in this form. -/
def Node.RefersBy (form : LinkForm) (tag target : String) : Node → Prop
  | .text _ => False
  | .element name attributes _ =>
    name ∈ ["see", "seealso"] ∧ name = tag ∧
      (∀ other ∈ form.overruling, attributes.lookup other = none) ∧
      attributes.lookup form.attributeName = some target

instance (form : LinkForm) (tag target : String) : DecidablePred (Node.RefersBy form tag target)
  | .text _ => inferInstanceAs (Decidable False)
  | .element name attributes _ => inferInstanceAs (Decidable (name ∈ ["see", "seealso"] ∧
      name = tag ∧ (∀ other ∈ form.overruling, attributes.lookup other = none) ∧
      attributes.lookup form.attributeName = some target))

theorem LinkForm.exists_iff {holds : LinkForm → Prop} :
    (∃ form, holds form) ↔ holds .code ∨ holds .address ∨ holds .word := by
  constructor
  · rintro ⟨form, held⟩
    cases form with
    | code => exact .inl held
    | address => exact .inr (.inl held)
    | word => exact .inr (.inr held)
  · rintro (held | held | held)
    · exact ⟨.code, held⟩
    · exact ⟨.address, held⟩
    · exact ⟨.word, held⟩

theorem Node.linkTarget?_eq_some_iff {node : Node} {tag target : String} :
    node.linkTarget? = some (tag, target) ↔ ∃ form, node.RefersBy form tag target := by
  cases node with
  | text content => simp [linkTarget?, RefersBy]
  | element name attributes children =>
      rw [LinkForm.exists_iff]
      simp only [linkTarget?, DocPreview.linkTarget?, RefersBy, LinkForm.overruling,
        LinkForm.attributeName, List.findSome?, List.mem_cons, List.not_mem_nil, or_false,
        forall_eq_or_imp, forall_eq]
      generalize attributes.lookup "cref" = code
      generalize attributes.lookup "href" = address
      generalize attributes.lookup "langword" = word
      cases code <;> cases address <;> cases word <;> simp

end DocPreview
