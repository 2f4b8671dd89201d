import DocPreview.Signature.Cache
import Mathlib.Data.List.Dedup
import Mathlib.Data.List.Induction
import Mathlib.Data.List.Perm.Subperm

/-!
# Call histories of the signature cache

A cache that started empty is described by the calls made on it. What it holds are the dialects
of the calls at the end that all asked for one declaration, each rendered from that declaration
and not from another one of the same identity.
-/

set_option autoImplicit false

namespace DocPreview.SignatureCache

inductive Call where
  | get (declaration : Declaration) (dialect : Dialect)
  | invalidate

def after (cache : SignatureCache) : Call → SignatureCache
  | .get declaration dialect => (cache.getOrRender declaration dialect).2
  | .invalidate => cache.invalidate

def run (cache : SignatureCache) (calls : List Call) : SignatureCache :=
  calls.foldl after cache

@[simp] theorem run_append_singleton (cache : SignatureCache) (calls : List Call) (call : Call) :
    cache.run (calls ++ [call]) = (cache.run calls).after call := by
  simp [run]

/-- An earlier call asked for the dialect of the declaration, and all calls since then asked for
the same declaration. -/
def AskedAlready (calls : List Call) (declaration : Declaration) (dialect : Dialect) : Prop :=
  ∃ earlier later, calls = earlier ++ .get declaration dialect :: later ∧
    ∀ call ∈ later, ∃ other, call = .get declaration other

/-! ## The calls at the end -/

def Call.dialectFor? (declaration : Declaration) : Call → Option Dialect
  | .get asked dialect => if asked = declaration then some dialect else none
  | .invalidate => none

def Call.declaration? : Call → Option Declaration
  | .get declaration _ => some declaration
  | .invalidate => none

/-- The declaration of the last call; none before the first call and after an invalidation. -/
def current? (calls : List Call) : Option Declaration :=
  calls.getLast?.bind Call.declaration?

/-- The dialects of the calls at the head of the list, as far as these ask for the
declaration. -/
def headDialects (declaration : Declaration) : List Call → List Dialect
  | [] => []
  | call :: calls =>
    match call.dialectFor? declaration with
    | some dialect => dialect :: headDialects declaration calls
    | none => []

/-- The dialects of the unbroken run of calls for the declaration that the calls end in, the
last one first. -/
def streak (declaration : Declaration) (calls : List Call) : List Dialect :=
  headDialects declaration calls.reverse

@[simp] theorem streak_nil (declaration : Declaration) : streak declaration [] = [] := rfl

@[simp] theorem streak_append_get (declaration : Declaration) (calls : List Call)
    (dialect : Dialect) :
    streak declaration (calls ++ [.get declaration dialect]) =
      dialect :: streak declaration calls := by
  simp [streak, headDialects, Call.dialectFor?]

@[simp] theorem streak_append_invalidate (declaration : Declaration) (calls : List Call) :
    streak declaration (calls ++ [.invalidate]) = [] := by
  simp [streak, headDialects, Call.dialectFor?]

theorem streak_append_other {declaration asked : Declaration} (calls : List Call)
    (dialect : Dialect) (different : asked ≠ declaration) :
    streak declaration (calls ++ [.get asked dialect]) = [] := by
  simp [streak, headDialects, Call.dialectFor?, different]

@[simp] theorem current?_append_singleton (calls : List Call) (call : Call) :
    current? (calls ++ [call]) = call.declaration? := by
  simp [current?]

theorem streak_eq_nil_of_current?_ne {declaration : Declaration} {calls : List Call}
    (different : current? calls ≠ some declaration) : streak declaration calls = [] := by
  induction calls using List.reverseRecOn with
  | nil => rfl
  | append_singleton calls call _ =>
      cases call with
      | invalidate => exact streak_append_invalidate declaration calls
      | get asked dialect =>
          rw [current?_append_singleton, Call.declaration?] at different
          exact streak_append_other calls dialect fun same => different (congrArg some same)

theorem askedAlready_append_singleton {calls : List Call} {call : Call}
    {declaration : Declaration} {dialect : Dialect} :
    AskedAlready (calls ++ [call]) declaration dialect ↔
      call = .get declaration dialect ∨
        (∃ other, call = .get declaration other) ∧ AskedAlready calls declaration dialect := by
  constructor
  · rintro ⟨earlier, later, split, same⟩
    rcases List.eq_nil_or_concat later with rfl | ⟨later, last, rfl⟩
    · have ends := List.append_inj_right' split rfl
      exact .inl (List.singleton_inj.mp ends)
    · rw [List.concat_eq_append, ← List.cons_append, ← List.append_assoc] at split
      obtain ⟨rfl, lastEq⟩ := List.append_inj' split rfl
      cases List.singleton_inj.mp lastEq
      exact .inr ⟨same call (by simp), earlier, later, rfl,
        fun call member => same call (by simp [member])⟩
  · rintro (rfl | ⟨⟨other, rfl⟩, earlier, later, rfl, same⟩)
    · exact ⟨calls, [], rfl, by simp⟩
    · refine ⟨earlier, later ++ [.get declaration other], by simp, ?_⟩
      intro call member
      rcases List.mem_append.mp member with old | new
      · exact same call old
      · exact ⟨other, List.mem_singleton.mp new⟩

theorem askedAlready_iff_mem_streak {calls : List Call} {declaration : Declaration}
    {dialect : Dialect} :
    AskedAlready calls declaration dialect ↔ dialect ∈ streak declaration calls := by
  induction calls using List.reverseRecOn with
  | nil => simp [AskedAlready]
  | append_singleton calls call ih =>
      rw [askedAlready_append_singleton, ih]
      cases call with
      | invalidate => simp
      | get asked other =>
          by_cases same : asked = declaration
          · subst same
            simp [eq_comm]
          · simp [streak_append_other calls other same, same]

/-! ## What the cache holds -/

def entry (declaration : Declaration) (dialect : Dialect) :
    (SignatureKey × Dialect) × Signature :=
  ((SignatureKey.ofDeclaration declaration, dialect), Signature.render declaration dialect)

theorem lookup_map_entry (declaration : Declaration) (dialect : Dialect)
    (dialects : List Dialect) :
    (dialects.map (entry declaration)).lookup
        (SignatureKey.ofDeclaration declaration, dialect) =
      if dialect ∈ dialects then some (Signature.render declaration dialect) else none := by
  induction dialects with
  | nil => rfl
  | cons first rest ih =>
      by_cases same : dialect = first
      · subst same
        simp [entry]
      · have differs :
            ((SignatureKey.ofDeclaration declaration, dialect) ==
              (SignatureKey.ofDeclaration declaration, first)) = false := by
          simp [same]
        rw [List.map_cons, entry, List.lookup_cons, differs, ih]
        simp [same]

/-- The cache is what the calls on an empty one leave behind, the count of renders apart. The
key and the declaration are both those of the last call: a cache with only one of the two could
not tell an edited declaration from an unchanged one. -/
structure Reflects (cache : SignatureCache) (calls : List Call) : Prop where
  active : cache.active = (current? calls).map SignatureKey.ofDeclaration
  renderedFrom : cache.renderedFrom = current? calls
  /-- The entries are those of the last run of calls, each dialect once. -/
  entries : ∀ declaration, current? calls = some declaration →
    cache.entries = (streak declaration calls).dedup.map (entry declaration)
  cleared : current? calls = none → cache.entries = []

theorem empty_reflects : Reflects .empty [] :=
  ⟨rfl, rfl, by simp [current?], fun _ => rfl⟩

theorem Reflects.invalidate {cache : SignatureCache} {calls : List Call} :
    Reflects cache.invalidate (calls ++ [.invalidate]) := by
  constructor <;> simp [SignatureCache.invalidate, Call.declaration?]

/-- The three ways to make a cache ready, by a new identity, by an edit and by no change, end in
the same state. -/
theorem Reflects.activate_eq {cache : SignatureCache} {calls : List Call}
    (reflects : Reflects cache calls) (declaration : Declaration) :
    cache.activate declaration =
      { active := some (SignatureKey.ofDeclaration declaration)
        renderedFrom := some declaration
        entries := (streak declaration calls).dedup.map (entry declaration)
        renders := cache.renders } := by
  by_cases same : current? calls = some declaration
  · have active : cache.active = some (SignatureKey.ofDeclaration declaration) := by
      rw [reflects.active, same, Option.map_some]
    have renderedFrom : cache.renderedFrom = some declaration := by
      rw [reflects.renderedFrom, same]
    have unchanged : cache.activate declaration = cache := by
      simp [activate, active, renderedFrom]
    rw [unchanged, ← reflects.entries declaration same, ← active, ← renderedFrom]
  · have edited : cache.renderedFrom ≠ some declaration := by
      rwa [reflects.renderedFrom]
    rw [streak_eq_nil_of_current?_ne same]
    by_cases identity : cache.active = some (SignatureKey.ofDeclaration declaration)
    · simp [activate, identity, edited]
    · simp [activate, identity]

theorem Reflects.getOrRender_eq {cache : SignatureCache} {calls : List Call}
    (reflects : Reflects cache calls) (declaration : Declaration) (dialect : Dialect) :
    cache.getOrRender declaration dialect =
      (Signature.render declaration dialect,
        { active := some (SignatureKey.ofDeclaration declaration)
          renderedFrom := some declaration
          entries := (dialect :: streak declaration calls).dedup.map (entry declaration)
          renders :=
            if dialect ∈ streak declaration calls then cache.renders
            else cache.renders + 1 }) := by
  simp only [getOrRender, reflects.activate_eq, lookup_map_entry, List.mem_dedup]
  by_cases asked : dialect ∈ streak declaration calls
  · simp only [asked, ↓reduceIte, List.dedup_cons_of_mem]
  · simp only [asked, ↓reduceIte, not_false_eq_true, List.dedup_cons_of_notMem, List.map_cons]
    rfl

theorem Reflects.get {cache : SignatureCache} {calls : List Call}
    (reflects : Reflects cache calls) (declaration : Declaration) (dialect : Dialect) :
    Reflects (cache.getOrRender declaration dialect).2
      (calls ++ [.get declaration dialect]) := by
  rw [reflects.getOrRender_eq]
  constructor
  · simp [Call.declaration?]
  · simp [Call.declaration?]
  · intro asked current
    cases Option.some.inj ((current?_append_singleton calls _).symm.trans current)
    simp
  · simp [Call.declaration?]

theorem run_reflects (calls : List Call) : Reflects (run .empty calls) calls := by
  induction calls using List.reverseRecOn with
  | nil => exact empty_reflects
  | append_singleton calls call ih =>
      rw [run_append_singleton]
      cases call with
      | get declaration dialect => exact ih.get declaration dialect
      | invalidate => exact Reflects.invalidate

theorem length_dedup_dialects_le_two (dialects : List Dialect) : dialects.dedup.length ≤ 2 := by
  have covered : dialects.dedup ⊆ [.csharp, .visualBasic] := by
    intro dialect _
    cases dialect <;> simp
  exact (List.subperm_of_subset (List.nodup_dedup dialects) covered).length_le

/-- Whatever calls were made on a cache that started empty, the next get answers with the
signature of its declaration, renders it exactly if the dialect was not asked for already, and
leaves one entry for each dialect of the run of calls that it ends. -/
theorem run_getOrRender_faithful (calls : List Call) :
    (∀ declaration dialect,
      let result := (run .empty calls).getOrRender declaration dialect
      result.1 = Signature.render declaration dialect ∧
      (AskedAlready calls declaration dialect →
        result.2.renders = (run .empty calls).renders) ∧
      (¬ AskedAlready calls declaration dialect →
        result.2.renders = (run .empty calls).renders + 1) ∧
      result.2.size =
        (streak declaration (calls ++ [.get declaration dialect])).dedup.length ∧
      result.2.size ≤ 2) ∧
    (run .empty calls).invalidate.size = 0 ∧
    (run .empty calls).invalidate.renders = (run .empty calls).renders := by
  refine ⟨?_, rfl, rfl⟩
  intro declaration dialect
  have reflects := run_reflects calls
  simp only [reflects.getOrRender_eq, askedAlready_iff_mem_streak, streak_append_get, size,
    List.length_map]
  refine ⟨trivial, ?_, ?_, trivial, length_dedup_dialects_le_two _⟩
  · intro asked
    rw [if_pos asked]
  · intro fresh
    rw [if_neg fresh]

/-- An edit that keeps the identity is rendered anew, a second dialect is not an edit. -/
example :
    let run := fun visibility dialect =>
      Call.get { name := "Run", kind := .method [], visibility } dialect
    (SignatureCache.run .empty
      [run .publicLevel .csharp, run .privateLevel .csharp, run .privateLevel .visualBasic,
        run .privateLevel .csharp]).renders = 3 := by
  decide

end DocPreview.SignatureCache
