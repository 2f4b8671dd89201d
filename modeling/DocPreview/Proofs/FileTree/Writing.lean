import DocPreview.FileTree.Basic
import DocPreview.Proofs.Results

/-!
# Writing to a file tree

A text that is written is what the same path reads afterwards. Nothing but the file itself changes:
the directories on the way to it are there before, and it is none of them.
-/

set_option autoImplicit false

namespace DocPreview.FileTree

theorem lookup_filter_ne {α : Type} {other location : Location} (different : other ≠ location)
    (entries : List (Location × α)) :
    (entries.filter (·.1 != location)).lookup other = entries.lookup other := by
  induction entries with
  | nil => rfl
  | cons first rest ih =>
      obtain ⟨held, entry⟩ := first
      by_cases dropped : held = location
      · have skipped : (other == location) = false := by simp [different]
        simp [dropped, ih, List.lookup_cons, skipped]
      · simp [dropped, ih, List.lookup_cons]

variable {tree : FileTree} {location target : Location} {path : Path}

/-! ## Ways -/

/-- A step on a way leaves a directory, back to the one around it or on to something in it. -/
theorem walk_cons_eq_ok {name : String} {names : List String} {reached : Location} :
    tree.walk location (name :: names) = .ok reached ↔
      tree.entry? location = some .directory ∧
        if name = ".." then tree.walk location.dropLast names = .ok reached
        else name.utf8ByteSize ≤ nameLimit ∧ (tree.entry? (location ++ [name])).isSome ∧
          tree.walk (location ++ [name]) names = .ok reached := by
  rw [walk]
  cases here : tree.entry? location with
  | none => simp
  | some entry =>
      cases entry with
      | file file => simp
      | directory =>
          by_cases back : name = ".."
          · simp [back]
          · by_cases long : nameLimit < name.utf8ByteSize
            · simp [back, long, Nat.not_le.mpr long]
            · cases there : tree.entry? (location ++ [name]) with
              | none => simp [back, long]
              | some entry => simp [back, long, Nat.not_lt.mp long]

theorem walk_append (front back : List String) :
    tree.walk location (front ++ back) =
      (tree.walk location front).bind fun reached => tree.walk reached back := by
  induction front generalizing location with
  | nil => rfl
  | cons name front ih =>
      rw [List.cons_append, walk, walk]
      cases tree.entry? location with
      | none => rfl
      | some entry =>
          cases entry with
          | file file => rfl
          | directory =>
              simp only [ih]
              split
              · rfl
              · split
                · rfl
                · split <;> rfl

/-! ## One entry changed -/

theorem set_holds_self (below : target ≠ []) (entry : FileEntry) :
    FileTree.entry? (tree.set target entry) target = some entry := by
  simp [set, entry?, below]

theorem set_holds_of_ne (different : location ≠ target) (entry : FileEntry) :
    FileTree.entry? (tree.set target entry) location = tree.entry? location := by
  have skipped : (location == target) = false := by simp [different]
  simp only [set, entry?, List.lookup_cons, skipped, lookup_filter_ne different]

/-- A way that is there stays when something that is no directory is replaced. -/
theorem walk_set (below : target ≠ []) (noDirectory : tree.entry? target ≠ some .directory)
    (entry : FileEntry) {names : List String} {reached : Location}
    (leads : tree.walk location names = .ok reached) :
    (tree.set target entry).walk location names = .ok reached := by
  induction names generalizing location with
  | nil => exact leads
  | cons name names ih =>
      obtain ⟨directory, onward⟩ := walk_cons_eq_ok.mp leads
      have apart : location ≠ target := by
        rintro rfl
        exact noDirectory directory
      refine walk_cons_eq_ok.mpr ⟨(set_holds_of_ne apart entry).trans directory, ?_⟩
      by_cases back : name = ".."
      · rw [if_pos back] at onward ⊢
        exact ih onward
      · rw [if_neg back] at onward ⊢
        obtain ⟨short, present, rest⟩ := onward
        refine ⟨short, ?_, ih rest⟩
        by_cases same : location ++ [name] = target
        · rw [same, set_holds_self below]
          rfl
        · rwa [set_holds_of_ne same]

/-! ## Writing -/

/-- Where a path lets a file be written: in a directory that is there, under the last name of the
path, which is no directory's. -/
structure WritesTo (tree : FileTree) (path : Path) (target : Location) : Prop where
  followable : checkPath path = .ok ()
  noDirectoryMeant : path.meansDirectory = false
  place : ∃ names name directory, path.names = names ++ [name] ∧ name ≠ ".." ∧
    name.utf8ByteSize ≤ nameLimit ∧ tree.walk (tree.start path) names = .ok directory ∧
    tree.entry? directory = some .directory ∧ target = directory ++ [name]
  noDirectoryThere : tree.entry? target ≠ some .directory

theorem WritesTo.target_ne_nil (writes : tree.WritesTo path target) : target ≠ [] := by
  obtain ⟨names, name, directory, -, -, -, -, -, rfl⟩ := writes.place
  simp

/-- Where a path with a last name leads that can be followed. -/
theorem locateTarget_of_names {names : List String} {name : String}
    (followable : checkPath path = .ok ()) (written : path.names = names ++ [name])
    (onward : name ≠ "..") :
    tree.locateTarget path =
      (tree.walk (tree.start path) names).bind fun directory =>
        match tree.entry? directory with
        | none => .error .notFound
        | some (.file _) => .error .notDirectory
        | some .directory =>
          if nameLimit < name.utf8ByteSize then .error .nameTooLong
          else
            match tree.entry? (directory ++ [name]), path.meansDirectory with
            | some .directory, _ => .error .isDirectory
            | none, true => .error .isDirectory
            | some (.file _), true => .error .notDirectory
            | _, false => .ok (directory ++ [name]) := by
  simp only [locateTarget, followable, written, List.getLast?_concat, List.dropLast_concat,
    if_neg onward]
  rfl

theorem names_of_locateTarget (located : tree.locateTarget path = .ok target) :
    checkPath path = .ok () ∧
      ∃ names name, path.names = names ++ [name] ∧ name ≠ ".." := by
  obtain ⟨_, followable, located⟩ := bind_eq_ok.mp located
  refine ⟨followable, ?_⟩
  rcases List.eq_nil_or_concat path.names with none | ⟨names, name, written⟩
  · simp [none] at located
  · rw [List.concat_eq_append] at written
    refine ⟨names, name, written, ?_⟩
    intro back
    simp [written, back] at located

theorem locateTarget_eq_ok : tree.locateTarget path = .ok target ↔ tree.WritesTo path target := by
  constructor
  · intro located
    obtain ⟨followable, names, name, written, onward⟩ := names_of_locateTarget located
    rw [locateTarget_of_names followable written onward] at located
    obtain ⟨directory, leads, located⟩ := bind_eq_ok.mp located
    split at located
    · cases located
    · cases located
    next there =>
      split at located
      · cases located
      next short =>
        split at located
        · cases located
        · cases located
        · cases located
        next noDirectoryMeant noDirectory =>
          cases located
          exact ⟨followable, noDirectoryMeant, ⟨names, name, directory, written, onward,
            Nat.not_lt.mp short, leads, there, rfl⟩, noDirectory⟩
  · intro writes
    obtain ⟨names, name, directory, written, onward, short, leads, there, rfl⟩ := writes.place
    have short : ¬ nameLimit < name.utf8ByteSize := Nat.not_lt.mpr short
    rw [locateTarget_of_names writes.followable written onward, leads]
    simp only [Except.bind, there, if_neg short, writes.noDirectoryMeant]
    cases held : tree.entry? (directory ++ [name]) with
    | none => rfl
    | some entry =>
        cases entry with
        | file file => rfl
        | directory => exact absurd held writes.noDirectoryThere

/-- A path that a file has been written to leads to it. -/
theorem WritesTo.locate_set (writes : tree.WritesTo path target) (file : File) :
    (tree.set target (.file file)).locate path = .ok target := by
  obtain ⟨names, name, directory, written, onward, short, leads, there, rfl⟩ := writes.place
  have below := writes.target_ne_nil
  have kept := walk_set below writes.noDirectoryThere (.file file) leads
  have stays : FileTree.entry? (tree.set (directory ++ [name]) (.file file)) directory =
      some .directory := by
    rwa [set_holds_of_ne (by simp)]
  have arrives : (tree.set (directory ++ [name]) (.file file)).walk directory [name] =
      .ok (directory ++ [name]) := by
    refine walk_cons_eq_ok.mpr ⟨stays, ?_⟩
    rw [if_neg onward, set_holds_self below]
    exact ⟨short, rfl, rfl⟩
  have started : (tree.set (directory ++ [name]) (.file file)).start path = tree.start path := rfl
  have whole : (tree.set (directory ++ [name]) (.file file)).walk (tree.start path) path.names =
      .ok (directory ++ [name]) := by
    rw [written, walk_append, kept]
    exact arrives
  refine bind_eq_ok.mpr ⟨(), writes.followable, bind_eq_ok.mpr ⟨_, started ▸ whole, ?_⟩⟩
  simp only [set_holds_self below, writes.noDirectoryMeant]
  rfl

/-- What has been written is read back, and nothing else has changed. -/
theorem read_write {after : FileTree} {text : String} {modified : Nat}
    (written : tree.write path text modified = .ok after) :
    ∃ target, tree.WritesTo path target ∧ after.read path = .ok text ∧
      after.entry? target = some (.file ⟨some text, modified⟩) ∧
      ∀ location, location ≠ target → after.entry? location = tree.entry? location := by
  obtain ⟨target, located, made⟩ := bind_eq_ok.mp written
  cases made
  have writes := locateTarget_eq_ok.mp located
  have holds : FileTree.entry? (tree.set target (.file ⟨some text, modified⟩)) target =
      some (.file ⟨some text, modified⟩) :=
    set_holds_self writes.target_ne_nil _
  have reads : (tree.set target (.file ⟨some text, modified⟩)).read path = .ok text := by
    refine bind_eq_ok.mpr ⟨target, writes.locate_set _, ?_⟩
    rw [holds]
    rfl
  exact ⟨target, writes, reads, holds, fun location apart => set_holds_of_ne apart _⟩

end DocPreview.FileTree
