import DocPreview.Json.Basic
import Mathlib.Data.List.Forall2
import Mathlib.Data.List.Perm.Basic

/-!
# Saying the same in JSON

Two values say the same to a reader of records when, at every depth, they differ only in the order
of the fields of a record and in fields that the record does not know. What a reader takes from a
record by the names of its fields is then the same for both.
-/

set_option autoImplicit false

namespace DocPreview

namespace Json

/-- What a reader looks for in a value. -/
inductive Shape where
  /-- The value as it stands. -/
  | plain
  | list (item : Shape)
  /-- The fields of these names, each of its own shape. -/
  | record (names : List String) (shapeOf : String → Shape)

def Shape.ofFields (fields : List (String × Shape)) : Shape :=
  .record (fields.map Prod.fst) fun name => (fields.lookup name).getD .plain

/-- The second value says what the first one does. -/
def Shape.Restates : Shape → Json → Json → Prop
  | .plain, value, other => other = value
  | .list item, value, other =>
    ∃ items others, value = .array items ∧ other = .array others ∧
      List.Forall₂ item.Restates items others
  | .record names shapeOf, value, other =>
    ∃ fields restated unknown others, value = .object fields ∧ other = .object others ∧
      List.Forall₂ (fun field restatement => restatement.1 = field.1 ∧
        (shapeOf field.1).Restates field.2 restatement.2) fields restated ∧
      (∀ field ∈ unknown, field.1 ∉ names) ∧ others.Perm (restated ++ unknown)

/-! ## Reading by name -/

@[simp]
theorem valuesOf_nil (name : String) : valuesOf name [] = [] := rfl

theorem valuesOf_cons (name : String) (field : String × Json) (fields : List (String × Json)) :
    valuesOf name (field :: fields) =
      if field.1 = name then field.2 :: valuesOf name fields else valuesOf name fields := by
  by_cases named : field.1 = name <;> simp [valuesOf, named]

theorem valuesOf_append (name : String) (first second : List (String × Json)) :
    valuesOf name (first ++ second) = valuesOf name first ++ valuesOf name second := by
  simp [valuesOf]

theorem valuesOf_eq_nil {name : String} {fields : List (String × Json)}
    (absent : ∀ field ∈ fields, field.1 ≠ name) : valuesOf name fields = [] := by
  simpa [valuesOf] using absent

theorem valuesOf_eq_singleton {fields : List (String × Json)}
    (distinct : (fields.map Prod.fst).Nodup) {name : String} {value : Json}
    (member : (name, value) ∈ fields) : valuesOf name fields = [value] := by
  induction fields with
  | nil => simp at member
  | cons field fields ih =>
      obtain ⟨fresh, distinct⟩ := List.nodup_cons.mp distinct
      have step : valuesOf name (field :: fields) =
        valuesOf name [field] ++ valuesOf name fields := valuesOf_append name [field] fields
      obtain rfl | member := List.mem_cons.mp member
      · rw [step, valuesOf_eq_nil fun other found same =>
          fresh (List.mem_map.mpr ⟨other, found, same⟩)]
        simp [valuesOf]
      · have other : field.1 ≠ name := by
          rintro rfl
          exact fresh (List.mem_map.mpr ⟨_, member, rfl⟩)
        rw [step, ih distinct member, valuesOf_eq_nil (by simpa using other)]
        rfl

/-- Of distinct names, each has the value in its own place. -/
theorem valuesOf_zip {names : List String} (distinct : names.Nodup) {place : Nat} {name : String}
    (stands : names[place]? = some name) (values : List Json) :
    valuesOf name (names.zip values) = values[place]?.toList := by
  induction names generalizing place values with
  | nil => cases stands
  | cons first names ih =>
      obtain ⟨fresh, distinct⟩ := List.nodup_cons.mp distinct
      cases values with
      | nil => rfl
      | cons value values =>
          rw [List.zip_cons_cons, valuesOf_cons]
          cases place with
          | zero =>
              obtain rfl : first = name := Option.some.inj stands
              have later : valuesOf first (names.zip values) = [] := by
                refine valuesOf_eq_nil fun field member => ?_
                rintro rfl
                exact fresh (List.of_mem_zip member).1
              rw [if_pos rfl, later]
              rfl
          | succ place =>
              have elsewhere : first ≠ name := by
                rintro rfl
                exact fresh (List.mem_of_getElem? stands)
              rw [if_neg elsewhere]
              exact ih distinct stands values

/-- A field of an array is read from its place, and a missing one has its default. -/
theorem field?_zip {α : Type} {names : List String} (distinct : names.Nodup) {place : Nat}
    {name : String} (stands : names[place]? = some name) (values : List Json) (default : α)
    (read : Json → Option α) :
    field? name default read (names.zip values) =
      match values[place]? with
      | some value => read value
      | none => some default := by
  rw [field?, valuesOf_zip distinct stands]
  cases values[place]? <;> rfl

theorem valuesOf_perm {first second : List (String × Json)} (same : first.Perm second)
    (name : String) : (valuesOf name first).Perm (valuesOf name second) :=
  (same.filter _).map _

theorem valuesOf_forall₂ (related : String → Json → Json → Prop)
    {fields others : List (String × Json)}
    (same : List.Forall₂ (fun field other => other.1 = field.1 ∧
      related field.1 field.2 other.2) fields others) (name : String) :
    List.Forall₂ (related name) (valuesOf name fields) (valuesOf name others) := by
  induction same with
  | nil => exact .nil
  | @cons field other fields others head _ ih =>
      obtain ⟨sameName, sameValue⟩ := head
      by_cases named : field.1 = name
      · subst named
        simpa [valuesOf, sameName, -List.forall₂_map_left_iff, -List.forall₂_map_right_iff]
          using ⟨sameValue, ih⟩
      · simpa [valuesOf, sameName, named, -List.forall₂_map_left_iff,
          -List.forall₂_map_right_iff] using ih

namespace Shape

theorem restates_record {names : List String} {shapeOf : String → Shape}
    {fields others : List (String × Json)} :
    (record names shapeOf).Restates (.object fields) (.object others) ↔
      ∃ restated unknown,
        List.Forall₂ (fun field restatement => restatement.1 = field.1 ∧
          (shapeOf field.1).Restates field.2 restatement.2) fields restated ∧
        (∀ field ∈ unknown, field.1 ∉ names) ∧ others.Perm (restated ++ unknown) := by
  simp [Restates]

theorem exists_of_restates {names : List String} {shapeOf : String → Shape} {value other : Json}
    (restates : (record names shapeOf).Restates value other) :
    ∃ fields others, value = .object fields ∧ other = .object others ∧
      (record names shapeOf).Restates (.object fields) (.object others) := by
  have whole := restates
  obtain ⟨fields, _, _, others, rfl, rfl, _⟩ := restates
  exact ⟨fields, others, rfl, rfl, whole⟩

/-- Further fields, each of a plain name, are restated by themselves. -/
theorem restates_append {names : List String} {shapeOf : String → Shape}
    {fields fields' others further : List (String × Json)}
    (restates : (record names shapeOf).Restates (.object fields) (.object fields'))
    (plain : ∀ field ∈ further, shapeOf field.1 = .plain)
    (same : others.Perm (fields' ++ further)) :
    (record names shapeOf).Restates (.object (fields ++ further)) (.object others) := by
  obtain ⟨restated, unknown, pairs, strange, perm⟩ := restates_record.mp restates
  refine restates_record.mpr ⟨restated ++ further, unknown, List.rel_append pairs ?_, strange, ?_⟩
  · refine List.forall₂_same.mpr fun field member => ⟨rfl, ?_⟩
    rw [plain field member]
    rfl
  · calc others
      _ |>.Perm (restated ++ unknown ++ further) := same.trans (perm.append_right further)
      _ |>.Perm (restated ++ (further ++ unknown)) := by
          rw [List.append_assoc]
          exact (List.perm_append_comm).append_left restated
      _ = restated ++ further ++ unknown := (List.append_assoc ..).symm

/-- The reader takes the same from values that say the same. -/
def Respects {α : Type} (read : Json → Option α) (shape : Shape) : Prop :=
  ∀ value other, shape.Restates value other → read other = read value

@[simp]
theorem respects_plain {α : Type} (read : Json → Option α) : Respects read .plain := by
  rintro value other rfl
  rfl

@[simp]
theorem respects_list {α : Type} {read : Json → Option α} {item : Shape}
    (respects : Respects read item) : Respects (list? read) (.list item) := by
  rintro _ _ ⟨items, others, rfl, rfl, pairs⟩
  rw [list?, list?]
  induction pairs with
  | nil => rfl
  | cons head _ ih => rw [List.mapM_cons, List.mapM_cons, respects _ _ head, ih]

section

variable {names : List String} {shapeOf : String → Shape} {fields others : List (String × Json)}
  (restates : (record names shapeOf).Restates (.object fields) (.object others))
  {name : String} (known : name ∈ names)

include restates known

/-- What the fields of a known name are restated as. -/
theorem exists_valuesOf_restates :
    ∃ restated, List.Forall₂ (shapeOf name).Restates (valuesOf name fields) restated ∧
      (valuesOf name others).Perm restated := by
  obtain ⟨restated, unknown, pairs, strange, perm⟩ := restates_record.mp restates
  refine ⟨valuesOf name restated,
    valuesOf_forall₂ (fun name => (shapeOf name).Restates) pairs name, ?_⟩
  have none : valuesOf name unknown = [] := by
    apply valuesOf_eq_nil
    rintro field member rfl
    exact strange field member known
  simpa [valuesOf_append, none] using valuesOf_perm perm name

/-- A known name stands in both records equally often, as far as a reader can tell. -/
theorem valuesOf_of_restates :
    (valuesOf name fields = [] ∧ valuesOf name others = []) ∨
    (∃ value other, valuesOf name fields = [value] ∧ valuesOf name others = [other] ∧
      (shapeOf name).Restates value other) ∨
    (∃ value value' values other other' rest, valuesOf name fields = value :: value' :: values ∧
      valuesOf name others = other :: other' :: rest) := by
  obtain ⟨restated, pairs, perm⟩ := exists_valuesOf_restates restates known
  generalize valuesOf name fields = values at pairs ⊢
  cases pairs with
  | nil => exact .inl ⟨rfl, List.perm_nil.mp perm⟩
  | cons head tail =>
      cases tail with
      | nil => exact .inr (.inl ⟨_, _, rfl, List.perm_singleton.mp perm, head⟩)
      | cons =>
          obtain ⟨other, further, found⟩ := List.exists_cons_of_length_pos
            (l := valuesOf name others) (by simp [perm.length_eq])
          obtain ⟨other', rest, rfl⟩ := List.exists_cons_of_length_pos
            (l := further) (by have := perm.length_eq; simp [found] at this; omega)
          exact .inr (.inr ⟨_, _, _, _, _, _, rfl, found⟩)

variable {α : Type} {read : Json → Option α} (respects : Respects read (shapeOf name))

include respects

theorem field?_of_restates (default : α) :
    field? name default read others = field? name default read fields := by
  obtain ⟨none, none'⟩ | ⟨value, other, one, one', same⟩ | ⟨_, _, _, _, _, _, more, more'⟩ :=
    valuesOf_of_restates restates known
  · simp only [field?, none, none']
  · simp only [field?, one, one', respects value other same]
  · simp only [field?, more, more']

theorem required?_of_restates :
    required? name read others = required? name read fields := by
  obtain ⟨none, none'⟩ | ⟨value, other, one, one', same⟩ | ⟨_, _, _, _, _, _, more, more'⟩ :=
    valuesOf_of_restates restates known
  · simp only [required?, none, none']
  · simp only [required?, one, one', respects value other same]
  · simp only [required?, more, more']

end

end Shape

end Json

end DocPreview
