import DocPreview.Proofs.FileTree.Writing
import DocPreview.Proofs.Include.Simulation

/-!
# What a document cache shows

A cache and the files together show one outcome for every location: the document that is kept,
as long as the file was not changed since, and otherwise what reading the file gives. Loading
yields that outcome and does not change what is shown, so an expansion that starts with any
cache is the expansion over a fixed assignment of outcomes to locations.
-/

set_option autoImplicit false

namespace DocPreview.Include

open Xml (Document)

/-- The element with all includes below it replaced, when the outcome of loading a location is
fixed. -/
def resolveFrom (setting : Setting) (documents : Location → Except Fault Document)
    (source? : Option Path) (root : Element) : Element :=
  Id.run (resolveWith setting (fun location => pure (documents location)) source? root)

theorem resolve_eq_resolveFrom (setting : Setting) (source? : Option Path) (root : Element) :
    resolve setting source? root =
      resolveFrom setting (readDocument setting.files) source? root := rfl

namespace Simulation

/-- Computations that change a state, keep an invariant of it, and return what a computation
without a state returns. -/
def ofInvariant {σ : Type} (invariant : σ → Prop) : Simulation (StateM σ) Id where
  related stateful pure :=
    ∀ state, invariant state → (stateful state).1 = pure ∧ invariant (stateful state).2
  related_pure _ _ holds := ⟨rfl, holds⟩
  related_bind := by
    intro α β left right leftNext rightNext first next state holds
    obtain ⟨value, kept⟩ := first state holds
    have rest := next (left state).1 (left state).2 kept
    exact value ▸ rest

end Simulation

/-- A load that keeps an invariant under which it yields fixed outcomes keeps it through the
whole resolution, which then is the one over these outcomes. -/
theorem resolveWith_of_invariant {σ : Type} (setting : Setting)
    (load : Location → StateM σ (Except Fault Document))
    (documents : Location → Except Fault Document) (invariant : σ → Prop)
    (loaded : ∀ location state, invariant state →
      (load location state).1 = documents location ∧ invariant (load location state).2)
    (source? : Option Path) (root : Element) (state : σ) (holds : invariant state) :
    (resolveWith setting load source? root state).1 =
        resolveFrom setting documents source? root ∧
      invariant (resolveWith setting load source? root state).2 := by
  let simulation := Simulation.ofInvariant invariant
  have related : ∀ location,
      simulation.related (load location) (pure (documents location) : Id _) := loaded
  exact simulation.resolveWith setting related source? root state holds

namespace Cache

/-! ## Keeping one document -/

def kept? (cache : Cache) (location : Location) : Option KeptDocument :=
  cache.documents.lookup location

def locations (cache : Cache) : List Location :=
  cache.documents.map Prod.fst

@[simp] theorem kept?_keep_self (cache : Cache) (location : Location) (kept : KeptDocument) :
    (cache.keep location kept).kept? location = some kept := by
  simp [kept?, keep]

theorem kept?_keep_of_ne {other location : Location} (different : other ≠ location)
    (cache : Cache) (kept : KeptDocument) :
    (cache.keep location kept).kept? other = cache.kept? other := by
  have skipped : (other == location) = false := by simp [different]
  simp [kept?, keep, List.lookup_cons, skipped, FileTree.lookup_filter_ne different]

theorem locations_keep (cache : Cache) (location : Location) (kept : KeptDocument) :
    (cache.keep location kept).locations =
      location :: cache.locations.filter (· != location) := by
  simp only [locations, keep, List.map_cons, List.filter_map]
  rfl

theorem fresh?_eq (cache : Cache) (files : FileTree) (location : Location) :
    cache.fresh? files location =
      (files.file? location).bind fun file =>
        (cache.kept? location).bind fun kept =>
          if kept.modified = file.modified then some kept.document else none := by
  unfold fresh? kept?
  cases files.file? location <;> cases cache.documents.lookup location <;> rfl

/-! ## Loading -/

/-- What the cache and the files together show at a location. -/
def view (cache : Cache) (files : FileTree) (location : Location) : Except Fault Document :=
  match cache.fresh? files location with
  | some document => .ok document
  | none => readDocument files location

theorem view_empty (files : FileTree) : view {} files = readDocument files := by
  funext location
  simp [view, fresh?_eq, kept?]

theorem load_apply (files : FileTree) (location : Location) (cache : Cache) :
    load files location cache =
      match cache.fresh? files location with
      | some document => (.ok document, cache)
      | none =>
        match files.file? location, readDocument files location with
        | some file, .ok document =>
          (.ok document, cache.keep location ⟨file.modified, document⟩)
        | _, read => (read, cache) := by
  unfold load
  simp only [bind, StateT.bind, get, getThe, MonadStateOf.get, StateT.get, pure]
  cases cache.fresh? files location with
  | some document => rfl
  | none => cases files.file? location <;> cases readDocument files location <;> rfl

theorem readDocument_of_file?_none {files : FileTree} {location : Location}
    (missing : files.file? location = none) :
    readDocument files location = .error (.unreadable location .notFound) := by
  simp [readDocument, missing]

/-- A load finds a fresh document and leaves the cache alone, or reads one and keeps it, or fails
to read one and leaves the cache alone. -/
theorem load_cases (files : FileTree) (location : Location) (cache : Cache) :
    (∃ document, cache.fresh? files location = some document ∧
      load files location cache = (.ok document, cache)) ∨
    (∃ file document, cache.fresh? files location = none ∧
      files.file? location = some file ∧ readDocument files location = .ok document ∧
      load files location cache =
        (.ok document, cache.keep location ⟨file.modified, document⟩)) ∨
    (∃ fault, cache.fresh? files location = none ∧
      readDocument files location = .error fault ∧
      load files location cache = (.error fault, cache)) := by
  rw [load_apply]
  cases fresh : cache.fresh? files location with
  | some document => exact .inl ⟨document, rfl, rfl⟩
  | none =>
      cases present : files.file? location with
      | none =>
          rw [readDocument_of_file?_none present]
          exact .inr (.inr ⟨_, rfl, rfl, rfl⟩)
      | some file =>
          cases read : readDocument files location with
          | ok document => exact .inr (.inl ⟨file, document, rfl, rfl, rfl, rfl⟩)
          | error fault => exact .inr (.inr ⟨fault, rfl, rfl, rfl⟩)

theorem load_fst (files : FileTree) (location : Location) (cache : Cache) :
    (load files location cache).1 = cache.view files location := by
  unfold view
  rcases load_cases files location cache with
    ⟨document, fresh, loaded⟩ | ⟨file, document, fresh, _, read, loaded⟩ |
      ⟨fault, fresh, read, loaded⟩
  · rw [fresh, loaded]
  · rw [fresh, loaded, read]
  · rw [fresh, loaded, read]

/-- Keeping what was read leaves alone what is shown, also at the location that it was read
from. -/
theorem view_keep {cache : Cache} {files : FileTree} {location : Location} {file : File}
    {document : Document} (fresh : cache.fresh? files location = none)
    (present : files.file? location = some file)
    (read : readDocument files location = .ok document) :
    (cache.keep location ⟨file.modified, document⟩).view files = cache.view files := by
  funext other
  by_cases same : other = location
  · subst same
    simp [view, fresh, fresh?_eq, present, read]
  · simp [view, fresh?_eq, kept?_keep_of_ne same]

theorem load_snd_view (files : FileTree) (location : Location) (cache : Cache) :
    (load files location cache).2.view files = cache.view files := by
  rcases load_cases files location cache with
    ⟨document, _, loaded⟩ | ⟨file, document, fresh, present, read, loaded⟩ | ⟨fault, _, _, loaded⟩
  · rw [loaded]
  · rw [loaded]
    exact view_keep fresh present read
  · rw [loaded]

theorem load_snd_of_error {files : FileTree} {location : Location} {cache : Cache} {fault : Fault}
    (failed : (load files location cache).1 = .error fault) :
    (load files location cache).2 = cache := by
  rcases load_cases files location cache with
    ⟨document, _, loaded⟩ | ⟨file, document, _, _, _, loaded⟩ | ⟨fault, _, _, loaded⟩
  · rw [loaded]
  · rw [loaded] at failed
    cases failed
  · rw [loaded]

/-- With any cache, stale or not, an element resolves as over the outcomes that the cache and the
files show at the start. What a load keeps on the way is kept too. -/
theorem resolve_of_invariant (setting : Setting) (invariant : Cache → Prop)
    (preserved : ∀ location cache, invariant cache →
      invariant (load setting.files location cache).2)
    (source? : Option Path) (root : Element) (cache : Cache) (holds : invariant cache) :
    (Cache.resolve setting source? root cache).1 =
        resolveFrom setting (cache.view setting.files) source? root ∧
      invariant (Cache.resolve setting source? root cache).2 := by
  have resolved := resolveWith_of_invariant setting (load setting.files)
    (cache.view setting.files)
    (fun state => state.view setting.files = cache.view setting.files ∧ invariant state)
    ?_ source? root cache ⟨rfl, holds⟩
  · exact ⟨resolved.1, resolved.2.2⟩
  · intro location state ⟨shown, kept⟩
    refine ⟨?_, ?_, preserved location state kept⟩
    · rw [load_fst, shown]
    · rw [load_snd_view, shown]

end Cache

end DocPreview.Include
