import DocPreview.Proofs.Include.DocumentView

/-!
# Caches over changing files

Between two resolutions files may be written and removed. A kept document is that of a file that
was there at some moment. As long as the time of change tells the texts of a location apart, a
cache of such documents shows nothing but what the files hold now.
-/

set_option autoImplicit false

namespace DocPreview

inductive FileChange where
  | write (location : Location) (file : File)
  | remove (location : Location)

namespace FileTree

def change (tree : FileTree) : FileChange → FileTree
  | .write location file => tree.put location (.file file)
  | .remove location => tree.remove location

def changeAll (tree : FileTree) (changes : List FileChange) : FileTree :=
  changes.foldl change tree

/-- The files at every moment of their history, from the start to the last change. -/
def history (tree : FileTree) : List FileChange → List FileTree
  | [] => [tree]
  | change :: changes => tree :: (tree.change change).history changes

/-- A location and a time of change determine the text, in whichever of the trees they occur. -/
def TimesDetermineTexts (trees : List FileTree) : Prop :=
  ∀ first ∈ trees, ∀ second ∈ trees, ∀ (location : Location) (file other : File),
    first.file? location = some file → second.file? location = some other →
      file.modified = other.modified → file.text? = other.text?

@[simp] theorem changeAll_append_singleton (tree : FileTree) (changes : List FileChange)
    (change : FileChange) :
    tree.changeAll (changes ++ [change]) = (tree.changeAll changes).change change := by
  simp [changeAll]

theorem changeAll_mem_history (tree : FileTree) (changes : List FileChange) :
    tree.changeAll changes ∈ tree.history changes := by
  induction changes generalizing tree with
  | nil => simp [changeAll, history]
  | cons first rest ih => exact List.mem_cons_of_mem _ (ih (tree.change first))

theorem history_subset_append (tree : FileTree) (changes more : List FileChange) :
    tree.history changes ⊆ tree.history (changes ++ more) := by
  induction changes generalizing tree with
  | nil => cases more <;> simp [history]
  | cons first rest ih => exact List.cons_subset_cons tree (ih (tree.change first))

theorem TimesDetermineTexts.mono {trees more : List FileTree}
    (determined : TimesDetermineTexts more) (included : trees ⊆ more) :
    TimesDetermineTexts trees :=
  fun first firstMember second secondMember =>
    determined first (included firstMember) second (included secondMember)

private theorem file?_of_entries_singleton {tree : FileTree} {location place : Location}
    {held found : File} (entries : tree.entries = [(location, .file held)])
    (present : tree.file? place = some found) : place = location ∧ found = held := by
  unfold file? entry? at present
  rw [entries] at present
  by_cases root : place.isEmpty
  · simp [root] at present
  · by_cases same : place = location
    · subst same
      simp_all
    · have skipped : (place == location) = false := by simp [same]
      simp [root, List.lookup_cons, skipped] at present

/-- Two versions of one file tell their texts apart if their times differ. -/
theorem timesDetermineTexts_of_versions {first second : FileTree} {location : Location}
    {file other : File} (old : first.entries = [(location, .file file)])
    (new : second.entries = [(location, .file other)]) (times : file.modified ≠ other.modified) :
    TimesDetermineTexts [first, second] := by
  intro left leftMember right rightMember place before after here there time
  simp only [List.mem_cons, List.not_mem_nil, or_false] at leftMember rightMember
  rcases leftMember with rfl | rfl <;> rcases rightMember with rfl | rfl
  · rw [(file?_of_entries_singleton old here).2, (file?_of_entries_singleton old there).2]
  · rw [(file?_of_entries_singleton old here).2, (file?_of_entries_singleton new there).2] at time
    exact absurd time times
  · rw [(file?_of_entries_singleton new here).2, (file?_of_entries_singleton old there).2] at time
    exact absurd time.symm times
  · rw [(file?_of_entries_singleton new here).2, (file?_of_entries_singleton new there).2]

end FileTree

namespace Include

open FileTree (TimesDetermineTexts)

theorem readDocument_congr {first second : FileTree} {location : Location} {file other : File}
    (here : first.file? location = some file) (there : second.file? location = some other)
    (same : file.text? = other.text?) :
    readDocument first location = readDocument second location := by
  simp [readDocument, here, there, same]

namespace Cache

/-- Every document that is kept was read from the location in one of the trees, and its time is
that of the file there. -/
def ReadFrom (trees : List FileTree) (cache : Cache) : Prop :=
  ∀ location kept, cache.kept? location = some kept →
    ∃ tree ∈ trees, ∃ file, tree.file? location = some file ∧
      file.modified = kept.modified ∧ readDocument tree location = .ok kept.document

theorem empty_readFrom (trees : List FileTree) : ReadFrom trees {} := by
  intro location kept found
  simp [kept?] at found

theorem ReadFrom.mono {trees more : List FileTree} {cache : Cache}
    (readFrom : ReadFrom trees cache) (included : trees ⊆ more) : ReadFrom more cache := by
  intro location kept found
  obtain ⟨tree, member, origin⟩ := readFrom location kept found
  exact ⟨tree, included member, origin⟩

theorem ReadFrom.load {trees : List FileTree} {cache : Cache} (readFrom : ReadFrom trees cache)
    {files : FileTree} (current : files ∈ trees) (location : Location) :
    ReadFrom trees (Cache.load files location cache).2 := by
  rcases load_cases files location cache with
    ⟨document, _, loaded⟩ | ⟨file, document, _, present, read, loaded⟩ | ⟨fault, _, _, loaded⟩
  · rwa [loaded]
  · rw [loaded]
    intro other kept found
    by_cases same : other = location
    · subst same
      rw [kept?_keep_self] at found
      cases found
      exact ⟨files, current, file, present, rfl, read⟩
    · rw [kept?_keep_of_ne same] at found
      exact readFrom other kept found
  · rwa [loaded]

/-- A fresh document is the one that reading the file gives: the file that it was read from had
the same time of change, hence the same text. -/
theorem ReadFrom.view_eq {trees : List FileTree} {cache : Cache}
    (readFrom : ReadFrom trees cache) (determined : TimesDetermineTexts trees)
    {files : FileTree} (current : files ∈ trees) :
    cache.view files = readDocument files := by
  funext location
  unfold view
  cases fresh : cache.fresh? files location with
  | none => rfl
  | some document =>
      rw [fresh?_eq] at fresh
      obtain ⟨file, present, fresh⟩ := Option.bind_eq_some_iff.mp fresh
      obtain ⟨kept, found, fresh⟩ := Option.bind_eq_some_iff.mp fresh
      split at fresh
      · rename_i unchanged
        cases fresh
        obtain ⟨tree, member, origin, before, time, read⟩ := readFrom location kept found
        have text : origin.text? = file.text? :=
          determined tree member files current location origin file before present
            (time.trans unchanged)
        rw [← readDocument_congr before present text, read]
      · cases fresh

theorem ReadFrom.resolve {trees : List FileTree} {cache : Cache}
    (readFrom : ReadFrom trees cache) (determined : TimesDetermineTexts trees)
    {files : FileTree} (current : files ∈ trees) (mode : IncludeMode) (source? : Option Path)
    (root : Element) :
    (Cache.resolve ⟨files, mode⟩ source? root cache).1 =
        Include.resolve ⟨files, mode⟩ source? root ∧
      ReadFrom trees (Cache.resolve ⟨files, mode⟩ source? root cache).2 := by
  have resolved := resolve_of_invariant ⟨files, mode⟩ (ReadFrom trees)
    (fun location _ kept => kept.load current location) source? root cache readFrom
  rw [readFrom.view_eq determined current, ← resolve_eq_resolveFrom] at resolved
  exact resolved

end Cache

end Include

end DocPreview
