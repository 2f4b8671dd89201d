import DocPreview.Proofs.Include.FileHistory
import Mathlib.Data.List.Dedup
import Mathlib.Data.List.Induction
import Mathlib.Data.List.Perm.Subperm

/-!
# Runs of one resolver

A resolver lives through changes of the files. Its cache leaves no trace on the trees that it
resolves, and holds one document for each location that was read and parsed during the run.
-/

set_option autoImplicit false

namespace DocPreview.Include

open FileTree (TimesDetermineTexts)
open Xml (Document)

namespace Cache

/-! ## Recording what is parsed -/

/-- Loads as the cache does, and records the location when its file had to be read and could be
parsed. -/
def recordingLoad (files : FileTree) (location : Location) :
    StateM (Cache × List Location) (Except Fault Document) := fun (cache, parsed) =>
  let loaded := load files location cache
  match cache.fresh? files location, loaded.1 with
  | none, .ok _ => (loaded.1, loaded.2, location :: parsed)
  | _, _ => (loaded.1, loaded.2, parsed)

/-- The locations that are read and parsed while an element is resolved, the last one first. -/
def parsedBy (setting : Setting) (source? : Option Path) (root : Element) (cache : Cache) :
    List Location :=
  (resolveWith setting (recordingLoad setting.files) source? root (cache, [])).2.2

theorem recordingLoad_erase (files : FileTree) (location : Location) (cache : Cache)
    (parsed : List Location) :
    (recordingLoad files location (cache, parsed)).1 = (load files location cache).1 ∧
      (recordingLoad files location (cache, parsed)).2.1 = (load files location cache).2 := by
  unfold recordingLoad
  simp only
  split <;> exact ⟨rfl, rfl⟩

/-- Computations that agree once the record of the first is left out. -/
def erasing : Simulation (StateM (Cache × List Location)) (StateM Cache) where
  related recording plain := ∀ cache parsed,
    (recording (cache, parsed)).1 = (plain cache).1 ∧
      (recording (cache, parsed)).2.1 = (plain cache).2
  related_pure _ _ _ := ⟨rfl, rfl⟩
  related_bind := by
    intro α β left right leftNext rightNext first next cache parsed
    obtain ⟨value, state⟩ := first cache parsed
    let reached := left (cache, parsed)
    have continued : (right >>= rightNext) cache = rightNext reached.1 reached.2.1 := by
      rw [value, state]
      rfl
    rw [continued]
    exact next reached.1 reached.2.1 reached.2.2

theorem resolve_snd_eq_recording (setting : Setting) (source? : Option Path) (root : Element)
    (cache : Cache) :
    (resolveWith setting (recordingLoad setting.files) source? root (cache, [])).2.1 =
      (Cache.resolve setting source? root cache).2 :=
  (erasing.resolveWith setting (recordingLoad_erase setting.files) source? root cache []).2

/-! ## What the cache holds -/

structure Holds (cache : Cache) (parsed : List Location) : Prop where
  nodup : cache.locations.Nodup
  mem_iff : ∀ location, location ∈ cache.locations ↔ location ∈ parsed

theorem Holds.keep {cache : Cache} {parsed : List Location} (holds : Holds cache parsed)
    (location : Location) (kept : KeptDocument) :
    Holds (cache.keep location kept) (location :: parsed) := by
  constructor
  · rw [locations_keep, List.nodup_cons]
    exact ⟨by simp, holds.nodup.filter _⟩
  · intro other
    rw [locations_keep, List.mem_cons, List.mem_cons, List.mem_filter, ← holds.mem_iff other]
    by_cases same : other = location
    · simp [same]
    · simp [same]

theorem Holds.size_eq {cache : Cache} {parsed : List Location} (holds : Holds cache parsed) :
    cache.size = parsed.dedup.length := by
  have same : cache.locations.Perm parsed.dedup := by
    rw [List.perm_ext_iff_of_nodup holds.nodup (List.nodup_dedup parsed)]
    simpa using holds.mem_iff
  simpa [locations, size] using same.length_eq

theorem Holds.recordingLoad {cache : Cache} {before parsed : List Location}
    (holds : Holds cache (parsed ++ before)) (files : FileTree) (location : Location) :
    Holds (Cache.recordingLoad files location (cache, parsed)).2.1
      ((Cache.recordingLoad files location (cache, parsed)).2.2 ++ before) := by
  rcases load_cases files location cache with
    ⟨document, fresh, loaded⟩ | ⟨file, document, fresh, _, _, loaded⟩ | ⟨fault, fresh, _, loaded⟩
  · simpa [Cache.recordingLoad, fresh, loaded] using holds
  · simpa [Cache.recordingLoad, fresh, loaded] using holds.keep location ⟨file.modified, document⟩
  · simpa [Cache.recordingLoad, fresh, loaded] using holds

/-- Resolving an element adds to the cache what is parsed on the way. -/
theorem Holds.resolve {cache : Cache} {before : List Location} (holds : Holds cache before)
    (setting : Setting) (source? : Option Path) (root : Element) :
    Holds (Cache.resolve setting source? root cache).2
      (parsedBy setting source? root cache ++ before) := by
  have resolved := resolveWith_of_invariant setting (Cache.recordingLoad setting.files)
    (cache.view setting.files)
    (fun state => state.1.view setting.files = cache.view setting.files ∧
      Holds state.1 (state.2 ++ before))
    ?_ source? root (cache, []) ⟨rfl, holds⟩
  · rw [← resolve_snd_eq_recording]
    exact resolved.2.2
  · rintro location ⟨reached, parsed⟩ ⟨shown, kept⟩
    obtain ⟨outcome, next⟩ := recordingLoad_erase setting.files location reached parsed
    refine ⟨?_, ?_, kept.recordingLoad setting.files location⟩
    · rw [outcome, load_fst, shown]
    · rw [next, load_snd_view, shown]

end Cache

/-! ## Runs -/

structure Resolver where
  files : FileTree
  cache : Cache := {}

namespace Resolver

inductive Step where
  | edit (change : FileChange)
  | resolve (mode : IncludeMode) (source? : Option Path) (root : Element)

def resolved (resolver : Resolver) (mode : IncludeMode) (source? : Option Path)
    (root : Element) : Element :=
  (Cache.resolve ⟨resolver.files, mode⟩ source? root resolver.cache).1

/-- A resolver on the same files that has read none of them. -/
def renewed (resolver : Resolver) : Resolver :=
  { files := resolver.files }

def after (resolver : Resolver) : Step → Resolver
  | .edit change => { resolver with files := resolver.files.change change }
  | .resolve mode source? root =>
    { resolver with
      cache := (Cache.resolve ⟨resolver.files, mode⟩ source? root resolver.cache).2 }

def run (resolver : Resolver) (steps : List Step) : Resolver :=
  steps.foldl after resolver

def Step.change? : Step → Option FileChange
  | .edit change => some change
  | .resolve _ _ _ => none

def changes (steps : List Step) : List FileChange :=
  steps.filterMap Step.change?

def parsedIn (resolver : Resolver) : Step → List Location
  | .edit _ => []
  | .resolve mode source? root =>
    Cache.parsedBy ⟨resolver.files, mode⟩ source? root resolver.cache

/-- The locations that the steps read and parse, as often as they do. -/
def parsed (resolver : Resolver) : List Step → List Location
  | [] => []
  | step :: steps => (resolver.after step).parsed steps ++ resolver.parsedIn step

@[simp] theorem run_append_singleton (resolver : Resolver) (steps : List Step) (step : Step) :
    resolver.run (steps ++ [step]) = (resolver.run steps).after step := by
  simp [run]

@[simp] theorem parsed_append_singleton (resolver : Resolver) (steps : List Step)
    (step : Step) :
    resolver.parsed (steps ++ [step]) =
      (resolver.run steps).parsedIn step ++ resolver.parsed steps := by
  induction steps generalizing resolver with
  | nil => simp [parsed, run]
  | cons first rest ih => simp [parsed, run, ih]

theorem changes_append_singleton (steps : List Step) (step : Step) :
    changes (steps ++ [step]) = changes steps ++ step.change?.toList := by
  cases step <;> simp [changes, Step.change?]

theorem run_files (files : FileTree) (steps : List Step) :
    (run ⟨files, {}⟩ steps).files = files.changeAll (changes steps) := by
  induction steps using List.reverseRecOn with
  | nil => rfl
  | append_singleton steps step ih =>
      rw [run_append_singleton, changes_append_singleton]
      cases step with
      | edit change => simp [after, Step.change?, ih]
      | resolve mode source? root => simp [after, Step.change?, ih]

theorem after_holds {resolver : Resolver} {before : List Location}
    (holds : resolver.cache.Holds before) (step : Step) :
    (resolver.after step).cache.Holds (resolver.parsedIn step ++ before) := by
  cases step with
  | edit change => exact holds
  | resolve mode source? root => exact holds.resolve ⟨resolver.files, mode⟩ source? root

theorem run_holds (files : FileTree) (steps : List Step) :
    (run ⟨files, {}⟩ steps).cache.Holds (parsed ⟨files, {}⟩ steps) := by
  induction steps using List.reverseRecOn with
  | nil => exact ⟨List.nodup_nil, fun _ => Iff.rfl⟩
  | append_singleton steps step ih =>
      rw [run_append_singleton, parsed_append_singleton]
      exact after_holds ih step

theorem after_readFrom {resolver : Resolver} {trees : List FileTree}
    (readFrom : resolver.cache.ReadFrom trees) (determined : TimesDetermineTexts trees)
    (current : resolver.files ∈ trees) (step : Step) :
    (resolver.after step).cache.ReadFrom trees := by
  cases step with
  | edit change => exact readFrom
  | resolve mode source? root =>
      exact (readFrom.resolve determined current mode source? root).2

theorem run_readFrom (files : FileTree) (steps : List Step)
    (determined : TimesDetermineTexts (files.history (changes steps))) :
    (run ⟨files, {}⟩ steps).cache.ReadFrom (files.history (changes steps)) := by
  induction steps using List.reverseRecOn with
  | nil => exact Cache.empty_readFrom _
  | append_singleton steps step ih =>
      rw [changes_append_singleton] at determined ⊢
      rw [run_append_singleton]
      have included := files.history_subset_append (changes steps) step.change?.toList
      have before := determined.mono included
      have current := files.changeAll_mem_history (changes steps)
      rw [← run_files] at current
      exact (after_readFrom (ih before) before current step).mono included

/-- Whatever happened so far to the files and the resolver, it resolves the next element as a new
one would, its cache counts the locations parsed so far and never shrinks, and a load that fails
changes nothing in it. -/
theorem run_transparent (files : FileTree) (steps : List Step)
    (determined : TimesDetermineTexts (files.history (changes steps))) :
    let resolver := run ⟨files, {}⟩ steps
    (∀ mode source? root,
      resolver.resolved mode source? root = resolver.renewed.resolved mode source? root) ∧
    resolver.cache.size = (parsed ⟨files, {}⟩ steps).dedup.length ∧
    (∀ step, resolver.cache.size ≤ (resolver.after step).cache.size) ∧
    (∀ (cache : Cache) (location : Location) (fault : Fault),
      (Cache.load resolver.files location cache).1 = .error fault →
        (Cache.load resolver.files location cache).2 = cache) := by
  intro resolver
  have holds := run_holds files steps
  refine ⟨?_, holds.size_eq, ?_, fun _ _ _ => Cache.load_snd_of_error⟩
  · intro mode source? root
    have current := files.changeAll_mem_history (changes steps)
    rw [← run_files] at current
    have kept := (run_readFrom files steps determined).resolve determined current mode source? root
    have new := (Cache.empty_readFrom _).resolve determined current mode source? root
    exact kept.1.trans new.1.symm
  · intro step
    rw [holds.size_eq, (after_holds holds step).size_eq]
    have included : (parsed ⟨files, {}⟩ steps).dedup ⊆
        ((run ⟨files, {}⟩ steps).parsedIn step ++ parsed ⟨files, {}⟩ steps).dedup := by
      intro location member
      simp only [List.mem_dedup, List.mem_append] at member ⊢
      exact .inr member
    exact (List.subperm_of_subset (List.nodup_dedup _) included).length_le

/-- A file that is read, written anew at a later time, and read again. -/
theorem run_transparent_rewritten_file :
    let files : FileTree := ⟨[], [(["d.xml"], .file ⟨some "<d><a/></d>", 1⟩)]⟩
    let root : Element :=
      { children := [.element "include" [("file", "d.xml"), ("path", "d/*")] []] }
    let steps : List Step :=
      [.resolve .absolute none root, .edit (.write ["d.xml"] ⟨some "<d><b/></d>", 2⟩)]
    TimesDetermineTexts (files.history (changes steps)) ∧
      (run ⟨files, {}⟩ steps).resolved .absolute none root =
        (run ⟨files, {}⟩ steps).renewed.resolved .absolute none root := by
  intro files root steps
  have determined : TimesDetermineTexts (files.history (changes steps)) :=
    FileTree.timesDetermineTexts_of_versions rfl rfl (by decide)
  exact ⟨determined, (run_transparent files steps determined).1 .absolute none root⟩

end Resolver

end DocPreview.Include
