import DocPreview.Proofs.Include.Moments

/-!
# The guard against cycles and depth

However the includes of the files refer to each other, the expansion of a tree ends. At every
moment the files being expanded are different ones, and no more than may enclose each other.
-/

set_option autoImplicit false

namespace DocPreview

theorem FileTree.locateFile?_isSome {tree : FileTree} {path : Path} {location : Location}
    (found : tree.locateFile? path = some location) : (tree.file? location).isSome := by
  unfold locateFile? at found
  cases reached : tree.locate path with
  | error fault => simp [reached] at found
  | ok place =>
      simp only [reached] at found
      split at found
      · cases found
        assumption
      · cases found

namespace Include

open Xml (Document)

/-! ## What decides an include -/

theorem Setting.locate_isSome {setting : Setting} {directory? : Option Path} {file : String}
    {location : Location} (located : setting.locate directory? file = .ok location) :
    (setting.files.file? location).isSome := by
  unfold locate at located
  simp only at located
  split at located
  · cases located
    exact FileTree.locateFile?_isSome ‹_›
  · split at located
    · split at located
      · cases located
        exact FileTree.locateFile?_isSome ‹_›
      · cases located
    · cases located

section

variable {setting : Setting} {enclosing : List Location} {directory? : Option Path}
  {attributes : List (String × String)}

/-- The include has both attributes, and its file is there. -/
def Finds (setting : Setting) (directory? : Option Path) (attributes : List (String × String))
    (location : Location) (query : String) : Prop :=
  requiredAttribute attributes "path" = .ok query ∧
    ∃ file, requiredAttribute attributes "file" = .ok file ∧
      setting.locate directory? file = .ok location

theorem Finds.target_eq {location : Location} {query : String}
    (finds : Finds setting directory? attributes location query) (enclosing : List Location) :
    setting.target enclosing directory? attributes =
      if location ∈ enclosing then .error (.cycle location) else .ok (location, query) := by
  obtain ⟨queried, file, named, located⟩ := finds
  simp only [Setting.target, named, queried, located, bind, Except.bind, List.contains_iff_mem]
  rfl

theorem target_eq_ok {location : Location} {query : String}
    (targeted : setting.target enclosing directory? attributes = .ok (location, query)) :
    Finds setting directory? attributes location query ∧ location ∉ enclosing := by
  cases named : requiredAttribute attributes "file" with
  | error fault => simp [Setting.target, named, bind, Except.bind] at targeted
  | ok file =>
      cases queried : requiredAttribute attributes "path" with
      | error fault => simp [Setting.target, named, queried, bind, Except.bind] at targeted
      | ok asked =>
          cases located : setting.locate directory? file with
          | error fault =>
              simp [Setting.target, named, queried, located, bind, Except.bind] at targeted
          | ok place =>
              have finds : Finds setting directory? attributes place asked :=
                ⟨queried, file, named, located⟩
              rw [finds.target_eq enclosing] at targeted
              split at targeted
              · cases targeted
              · cases targeted
                exact ⟨finds, ‹_›⟩

/-- Why a file gives no nodes for a query is its own fault: it is neither a cycle nor depth. -/
theorem readDocument_error {files : FileTree} {location : Location} {fault : Fault}
    (failed : readDocument files location = .error fault) :
    (∀ other, fault ≠ .cycle other) ∧ ∀ limit, fault ≠ .tooDeep limit := by
  unfold readDocument at failed
  split at failed
  · cases failed
    simp
  · split at failed
    · cases failed
      simp
    · split at failed
      · cases failed
      · cases failed
        simp

theorem matching_error {files : FileTree} {location : Location} {query : String} {fault : Fault}
    (failed : (matching (fun location => pure (readDocument files location)) location query :
      Id _) = .error fault) :
    (∀ other, fault ≠ .cycle other) ∧ ∀ limit, fault ≠ .tooDeep limit := by
  simp only [matching, bind, pure] at failed
  cases read : readDocument files location with
  | error unread =>
      simp only [read] at failed
      cases failed
      exact readDocument_error read
  | ok document =>
      simp only [read] at failed
      split at failed <;> cases failed <;> simp

/-- An include whose file is found is refused as a cycle if the file encloses it, and otherwise
for depth if as many files as may enclose each other do enclose it. -/
theorem Finds.selection_refused {location : Location} {query : String}
    (finds : Finds setting directory? attributes location query) (enclosing : List Location) :
    let selected := selection setting (readDocument setting.files) enclosing directory? attributes
    (∀ other, selected = .error (.cycle other) ↔ location ∈ enclosing ∧ other = location) ∧
    ∀ limit, selected = .error (.tooDeep limit) ↔
      location ∉ enclosing ∧ nestingLimit ≤ enclosing.length ∧ limit = nestingLimit := by
  intro selected
  have opened : selected = selection setting (readDocument setting.files) enclosing directory?
    attributes := rfl
  simp only [selection, finds.target_eq enclosing, Id.run] at opened
  by_cases cyclic : location ∈ enclosing
  · simp only [cyclic, ↓reduceIte, bind, Except.bind] at opened
    rw [opened]
    simp [cyclic, eq_comm]
  · by_cases full : nestingLimit ≤ enclosing.length
    · simp only [cyclic, full, ↓reduceIte, bind, Except.bind] at opened
      rw [opened]
      simp [cyclic, full, eq_comm]
    · simp only [cyclic, full, ↓reduceIte, bind, Except.bind] at opened
      cases matched : (matching (fun location => pure (readDocument setting.files location))
          location query : Id _) with
      | error fault =>
          obtain ⟨noCycle, notDeep⟩ := matching_error matched
          simp only [matched] at opened
          rw [opened]
          simp [cyclic, full, noCycle, notDeep]
      | ok nodes =>
          simp only [matched] at opened
          rw [opened]
          simp [cyclic, full, pure, Except.pure]

end

def replacementInside (setting : Setting) (source? : Option Path) (enclosing : List Location)
    (attributes : List (String × String)) : List Node :=
  Id.run (replacement setting (fun location => pure (readDocument setting.files location))
    (nestingLimit - enclosing.length) enclosing (directoryInside source? enclosing) attributes)

namespace Moment

variable {setting : Setting} {source? : Option Path}

/-! ## What every moment keeps -/

/-- The files being expanded are different ones, are there, and are few enough, and the cache
shows what the files hold. -/
structure Guarded (setting : Setting) (moment : Moment) : Prop where
  distinct : moment.enclosing.Nodup
  bounded : moment.enclosing.length ≤ nestingLimit
  present : ∀ location ∈ moment.enclosing, (setting.files.file? location).isSome
  shown : moment.cache.view setting.files = readDocument setting.files

theorem start_guarded (setting : Setting) (root : Element) :
    (start setting root).Guarded setting := by
  unfold start
  split
  · exact ⟨List.nodup_nil, Nat.zero_le _, by simp, Cache.view_empty _⟩
  · exact ⟨List.nodup_nil, Nat.zero_le _, by simp, Cache.view_empty _⟩

theorem Guarded.outcome {moment : Moment} (guarded : moment.Guarded setting)
    (source? : Option Path) (attributes : List (String × String)) :
    (moment.outcome setting source? attributes).1 =
        selection setting (readDocument setting.files) moment.enclosing
          (directoryInside source? moment.enclosing) attributes ∧
      (moment.outcome setting source? attributes).2.view setting.files =
        readDocument setting.files :=
  selectionWith_load guarded.shown moment.enclosing (directoryInside source? moment.enclosing)
    attributes

/-- Only an include that selects something adds a file, and then the file is there, is none of
those that enclose the include, and does not fill the stack beyond the limit. -/
theorem Guarded.enter {moment : Moment} (guarded : moment.Guarded setting)
    {attributes : List (String × String)} {location : Location} {selected : List Node}
    {cache : Cache}
    (found : moment.outcome setting source? attributes = (.ok (location, selected), cache)) :
    (location :: moment.enclosing).Nodup ∧
      (location :: moment.enclosing).length ≤ nestingLimit ∧
      ∀ other ∈ location :: moment.enclosing, (setting.files.file? other).isSome := by
  obtain ⟨selects, _⟩ := guarded.outcome source? attributes
  rw [found] at selects
  obtain ⟨query, targeted, room, _⟩ := selection_eq_ok selects.symm
  obtain ⟨⟨_, file, _, located⟩, apart⟩ := target_eq_ok targeted
  refine ⟨List.nodup_cons.mpr ⟨apart, guarded.distinct⟩, room, ?_⟩
  intro other member
  rcases List.mem_cons.mp member with rfl | member
  · exact Setting.locate_isSome located
  · exact guarded.present other member

theorem Guarded.next? {before after : Moment} (guarded : before.Guarded setting)
    (next : before.next? setting source? = some after) : after.Guarded setting := by
  unfold Moment.next? at next
  split at next
  · cases next
  · cases next
    exact { guarded with }
  · rename_i name attributes children tasks left
    have shown := (guarded.outcome source? attributes).2
    split at next
    · split at next
      · rename_i fault cache found
        rw [found] at shown
        cases next
        exact { guarded with shown }
      · rename_i location selected cache found
        rw [found] at shown
        cases next
        obtain ⟨distinct, bounded, present⟩ := guarded.enter found
        exact { distinct, bounded, present, shown }
    · cases next
      exact { guarded with }
  · split at next
    · cases next
    · cases next
      exact { guarded with }
  · cases next
    refine ⟨guarded.distinct.tail, ?_, ?_, guarded.shown⟩
    · exact Nat.le_trans (by simp) guarded.bounded
    · exact fun location member => guarded.present location (List.mem_of_mem_tail member)

theorem Guarded.leads {before after : Moment} (guarded : before.Guarded setting)
    (leads : Leads setting source? before after) : after.Guarded setting := by
  induction leads with
  | refl => exact guarded
  | tail _ next ih => exact ih.next? next

/-! ## Dealing with one include -/

/-- An include of these attributes is next at the first moment and dealt with at the second. The
files around it stay what they were, and what is made of it is decided by them and by its
attributes, besides the files, the mode and the source file. -/
structure Handles (setting : Setting) (source? : Option Path)
    (attributes : List (String × String)) (children : List Node) (before after : Moment) :
    Prop where
  leads : Leads setting source? before after
  next : before.tasks = .expand (.element tag attributes children) :: after.tasks
  enclosing : after.enclosing = before.enclosing
  outer : after.outer = before.outer
  made : after.made =
    before.made ++ replacementInside setting source? before.enclosing attributes
  refused : ∀ fault, (before.outcome setting source? attributes).1 = .error fault →
    replacementInside setting source? before.enclosing attributes = [fault.node]
  cycle_iff : ∀ location query,
    Finds setting (directoryInside source? before.enclosing) attributes location query →
    ∀ other, (before.outcome setting source? attributes).1 = .error (.cycle other) ↔
      location ∈ before.enclosing ∧ other = location
  tooDeep_iff : ∀ location query,
    Finds setting (directoryInside source? before.enclosing) attributes location query →
    ∀ limit, (before.outcome setting source? attributes).1 = .error (.tooDeep limit) ↔
      location ∉ before.enclosing ∧ before.enclosing.length = nestingLimit ∧
        limit = nestingLimit

theorem Guarded.handles {moment : Moment} (guarded : moment.Guarded setting)
    {attributes : List (String × String)} {children : List Node} {tasks : List Task}
    (next : moment.tasks = .expand (.element tag attributes children) :: tasks) :
    ∃ after, after.tasks = tasks ∧
      Handles setting source? attributes children moment after := by
  obtain ⟨enclosing, all, made, outer, cache⟩ := moment
  have bounded : enclosing.length ≤ nestingLimit := guarded.bounded
  have balanced : nestingLimit - enclosing.length + enclosing.length = nestingLimit := by omega
  have selected := (guarded.outcome source? attributes).1
  simp only at next
  subst next
  refine ⟨_, rfl, makes_replacement setting source? _ enclosing balanced attributes children tasks
    made outer cache, rfl, rfl, rfl, ?_, ?_, ?_, ?_⟩
  · exact congrArg (made ++ ·) (replacement_load guarded.shown _ _ _ _)
  · intro fault failed
    rw [selected] at failed
    unfold replacementInside
    rw [replacement_eq setting _ _ enclosing _ attributes balanced, failed]
    rfl
  · intro location query finds other
    rw [selected]
    exact (finds.selection_refused enclosing).1 other
  · intro location query finds limit
    have full : nestingLimit ≤ enclosing.length ↔ enclosing.length = nestingLimit := by omega
    rw [selected, (finds.selection_refused enclosing).2 limit, full]

/-- No run of a new resolver goes on for ever, and it ends with what the element is resolved to. At
every moment of the run the files being expanded are different ones, and at most as many as may
enclose each other. An include that is next after some of its siblings is reached, and left again,
with the files that enclosed the siblings. -/
theorem nesting_guarded (setting : Setting) (source? : Option Path) (root : Element) :
    let start := Moment.start setting root
    let resolved := Cache.resolve setting source? root {}
    Leads setting source? start { made := resolved.1.children, cache := resolved.2 } ∧
    Acc (fun after before => before.next? setting source? = some after) start ∧
    ∀ moment, Leads setting source? start moment →
      moment.enclosing.Nodup ∧ moment.enclosing.length ≤ nestingLimit ∧
      (∀ location ∈ moment.enclosing, (setting.files.file? location).isSome) ∧
      ∀ siblings attributes children tasks,
        moment.tasks =
          (siblings ++ [.element tag attributes children]).map .expand ++ tasks →
        ∃ reached after, Leads setting source? moment reached ∧
          reached.enclosing = moment.enclosing ∧ after.tasks = tasks ∧
          Handles setting source? attributes children reached after := by
  intro start resolved
  have ends := start_leads setting source? root
  refine ⟨ends, ends.acc rfl, ?_⟩
  intro moment leads
  have guarded := (start_guarded setting root).leads leads
  refine ⟨guarded.distinct, guarded.bounded, guarded.present, ?_⟩
  intro siblings attributes children tasks left
  obtain ⟨enclosing, all, made, outer, cache⟩ := moment
  have bounded : enclosing.length ≤ nestingLimit := guarded.bounded
  have passed := makes_expandNodes
    (makes_replacement setting source? (nestingLimit - enclosing.length) enclosing (by omega))
    siblings (.expand (.element tag attributes children) :: tasks) made outer cache
  simp only [List.map_append, List.append_assoc] at left
  subst left
  obtain ⟨after, done, handles⟩ := (guarded.leads passed).handles rfl
  exact ⟨_, after, passed, rfl, done, handles⟩

/-- Two siblings that include one file, which includes itself: the second is no cycle. -/
theorem nesting_guarded_sibling_includes :
    let files : FileTree :=
      ⟨[], [(["d.xml"], .file ⟨some "<d><include file='d.xml' path='d/*'/></d>", 1⟩)]⟩
    let setting : Setting := ⟨files, .absolute⟩
    let attributes := [("file", "d.xml"), ("path", "d/*")]
    let again : Node := .element tag attributes []
    let start := Moment.start setting { name := "member", children := [again, .text "b", again] }
    Leads setting none start start ∧
      start.tasks = ([again, .text "b"] ++ [again]).map .expand ++ [] ∧
      Finds setting (directoryInside none start.enclosing) attributes ["d.xml"] "d/*" ∧
      ∃ reached after, Leads setting none start reached ∧
        Handles setting none attributes [] reached after ∧
        ∀ other, (reached.outcome setting none attributes).1 ≠ .error (.cycle other) := by
  intro files setting attributes again start
  have leads : Leads setting none start start := Relation.ReflTransGen.refl
  have left : start.tasks = ([again, .text "b"] ++ [again]).map .expand ++ [] := rfl
  have finds : Finds setting (directoryInside none start.enclosing) attributes ["d.xml"] "d/*" :=
    ⟨rfl, "d.xml", rfl, rfl⟩
  obtain ⟨reached, after, reaches, enclosing, _, handles⟩ := ((nesting_guarded setting none
    { name := "member", children := [again, .text "b", again] }).2.2 start leads).2.2.2 _ _ _ _
    left
  refine ⟨leads, left, finds, reached, after, reaches, handles, fun other cycle => ?_⟩
  rw [← enclosing] at finds
  have encloses := ((handles.cycle_iff _ _ finds other).mp cycle).1
  rw [enclosing] at encloses
  exact absurd encloses List.not_mem_nil

end Moment

end Include

end DocPreview
