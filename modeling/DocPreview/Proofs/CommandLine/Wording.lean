import DocPreview.CommandLine.Arguments
import DocPreview.Proofs.Results
import DocPreview.Proofs.Text.Trim

/-!
# Wording of arguments

Arguments that a command line can have can be written out: every value attached to its option, and
the comment file after a double dash. Reading these words gives the arguments back, whatever
values they hold.
-/

set_option autoImplicit false

namespace DocPreview.CommandLine

/-! ## Words of an option -/

def Flag.name : Flag → String
  | .declaration => "declaration"
  | .dialect => "dialect"
  | .style => "style"
  | .config => "config"
  | .policy => "policy"
  | .includeMode => "include-mode"
  | .keepRepeatedLinks => "no-dedupe-links"
  | .source => "source"
  | .output => "output"
  | .help => "help"

theorem Flag.lookup_name (flag : Flag) : Flag.longNames.lookup flag.name = some flag := by
  cases flag <;> decide

theorem Flag.equals_not_mem_name (flag : Flag) : '=' ∉ flag.name.toList := by
  cases flag <;> decide

def attached (flag : Flag) (value : String) : String :=
  "--" ++ flag.name ++ "=" ++ value

theorem Word.ofLong_attached (flag : Flag) (value : List Char) :
    Word.ofLong (flag.name.toList ++ '=' :: value) =
      .option flag (some (String.ofList value)) := by
  have inside : ∀ char ∈ flag.name.toList, (char != '=') = true := by
    intro char member
    have different : char ≠ '=' := by
      rintro rfl
      exact flag.equals_not_mem_name member
    simpa using different
  have outside : ∀ char ∈ ('=' :: value).head?, (char != '=') = false := by simp
  simp [Word.ofLong, Text.takeWhile_append_of_stops inside outside,
    List.dropWhile_append_of_pos inside, Flag.lookup_name]

theorem Word.ofText_of_dashes {text : String} {rest : List Char}
    (letters : text.toList = '-' :: '-' :: rest) (more : rest ≠ []) :
    Word.ofText text = Word.ofLong rest := by
  cases rest with
  | nil => exact absurd rfl more
  | cons first rest =>
      rw [Word.ofText, letters]
      rfl

theorem Word.ofText_attached (flag : Flag) (value : String) :
    Word.ofText (attached flag value) = .option flag (some value) := by
  have letters : (attached flag value).toList =
      '-' :: '-' :: (flag.name.toList ++ '=' :: value.toList) := by
    simp [attached]
  rw [Word.ofText_of_dashes letters (by simp), Word.ofLong_attached, String.ofList_toList]

namespace Arguments

theorem read_attached (arguments : Arguments) (flag : Flag) (value : String)
    (words : List String) :
    arguments.read (attached flag value :: words) =
      (arguments.setValue value flag).bind fun next => next.read words := by
  rw [read, Word.ofText_attached]
  rfl

/-- The words of an option: none if it has no value. -/
def optionWords {α : Type} (flag : Flag) (spell : α → String) (value? : Option α) :
    List String :=
  (value?.map fun value => attached flag (spell value)).toList

theorem read_optionWords {α : Type} {before after : Arguments} {flag : Flag}
    {spell : α → String} {value? : Option α}
    (set : ∀ value, value? = some value → before.setValue (spell value) flag = .ok after)
    (unset : value? = none → before = after) (words : List String) :
    before.read (optionWords flag spell value? ++ words) = after.read words := by
  cases value? with
  | none =>
      rw [unset rfl]
      rfl
  | some value =>
      simp only [optionWords, Option.map_some, Option.toList_some, List.singleton_append,
        read_attached, set value rfl, Except.bind]

/-! ## Words of arguments -/

def NoEmptyPath (arguments : Arguments) : Prop :=
  some "" ∉ [arguments.comment?, arguments.declaration?, arguments.config?, arguments.source?,
    arguments.output?]

theorem setOnce_pathValue? {path? : Option String} (nonempty : some "" ≠ path?) {value : String}
    (held : path? = some value) : setOnce none (pathValue? value) = .ok path? := by
  subst held
  have nonempty : value ≠ "" := fun empty => nonempty (by rw [empty])
  simp [setOnce, pathValue?, nonempty]

def dialectName : Dialect → String
  | .csharp => "csharp"
  | .visualBasic => "vb"

theorem ofName?_dialectName (dialect : Dialect) :
    Dialect.ofName? (dialectName dialect) = some dialect := by
  cases dialect <;> decide

theorem ofName?_policyName (policy : TagPolicy) : TagPolicy.ofName? policy.name = some policy := by
  cases policy <;> decide

theorem ofName?_includeModeName (mode : IncludeMode) :
    IncludeMode.ofName? mode.name = some mode := by
  cases mode <;> decide

def linkWords : Bool → List String
  | true => ["--" ++ Flag.keepRepeatedLinks.name]
  | false => []

def commentWords : Option String → List String
  | some path => ["--", path]
  | none => []

theorem read_linkWords {arguments : Arguments} (unset : arguments.keepRepeatedLinks = false)
    (keepRepeatedLinks : Bool) (words : List String) :
    arguments.read (linkWords keepRepeatedLinks ++ words) =
      ({ arguments with keepRepeatedLinks } : Arguments).read words := by
  cases keepRepeatedLinks with
  | false =>
      cases arguments
      cases unset
      rfl
  | true =>
      have isFlag : Word.ofText ("--" ++ Flag.keepRepeatedLinks.name) =
          .option .keepRepeatedLinks none := by decide
      simp only [linkWords, List.singleton_append, read, isFlag, setFlag, unset]
      rfl

theorem read_commentWords {arguments : Arguments} (unset : arguments.comment? = none)
    {comment? : Option String} (nonempty : some "" ≠ comment?) :
    arguments.read (commentWords comment?) = .ok { arguments with comment? } := by
  cases comment? with
  | none =>
      cases arguments
      cases unset
      rfl
  | some path =>
      have ended : Word.ofText "--" = .endOfOptions := by decide
      simp only [commentWords, read, ended, List.foldlM_cons, List.foldlM_nil, setComment, unset,
        setOnce_pathValue? nonempty rfl]
      rfl

def words (arguments : Arguments) : List String :=
  optionWords .declaration id arguments.declaration? ++
    (optionWords .dialect dialectName arguments.dialect? ++
    (optionWords .style id arguments.style? ++
    (optionWords .config id arguments.config? ++
    (optionWords .policy TagPolicy.name arguments.policy? ++
    (optionWords .includeMode IncludeMode.name arguments.includeMode? ++
    (optionWords .source id arguments.source? ++
    (optionWords .output id arguments.output? ++
    (linkWords arguments.keepRepeatedLinks ++ commentWords arguments.comment?))))))))

theorem read_words {arguments : Arguments} (paths : arguments.NoEmptyPath) :
    ({} : Arguments).read arguments.words = .ok arguments := by
  obtain ⟨comment?, declaration?, dialect?, style?, config?, policy?, includeMode?,
    keepRepeatedLinks, source?, output?⟩ := arguments
  simp only [NoEmptyPath, List.mem_cons, List.not_mem_nil, or_false, not_or] at paths
  obtain ⟨comment, declaration, config, source, output⟩ := paths
  simp only [words]
  calc
    _ = ({ declaration? } : Arguments).read _ := by
      refine read_optionWords (fun value held => ?_) (fun unset => by rw [unset]) _
      rw [setValue, id_eq, setOnce_pathValue? declaration held]
      rfl
    _ = ({ declaration?, dialect? } : Arguments).read _ := by
      refine read_optionWords (fun value held => ?_) (fun unset => by rw [unset]) _
      rw [setValue, ofName?_dialectName, held]
      rfl
    _ = ({ declaration?, dialect?, style? } : Arguments).read _ := by
      refine read_optionWords (fun value held => ?_) (fun unset => by rw [unset]) _
      rw [held]
      rfl
    _ = ({ declaration?, dialect?, style?, config? } : Arguments).read _ := by
      refine read_optionWords (fun value held => ?_) (fun unset => by rw [unset]) _
      rw [setValue, id_eq, setOnce_pathValue? config held]
      rfl
    _ = ({ declaration?, dialect?, style?, config?, policy? } : Arguments).read _ := by
      refine read_optionWords (fun value held => ?_) (fun unset => by rw [unset]) _
      rw [setValue, ofName?_policyName, held]
      rfl
    _ = ({ declaration?, dialect?, style?, config?, policy?, includeMode? } :
        Arguments).read _ := by
      refine read_optionWords (fun value held => ?_) (fun unset => by rw [unset]) _
      rw [setValue, ofName?_includeModeName, held]
      rfl
    _ = ({ declaration?, dialect?, style?, config?, policy?, includeMode?, source? } :
        Arguments).read _ := by
      refine read_optionWords (fun value held => ?_) (fun unset => by rw [unset]) _
      rw [setValue, id_eq, setOnce_pathValue? source held]
      rfl
    _ = ({ declaration?, dialect?, style?, config?, policy?, includeMode?, source?, output? } :
        Arguments).read _ := by
      refine read_optionWords (fun value held => ?_) (fun unset => by rw [unset]) _
      rw [setValue, id_eq, setOnce_pathValue? output held]
      rfl
    _ = ({ declaration?, dialect?, style?, config?, policy?, includeMode?, source?, output?,
           keepRepeatedLinks } : Arguments).read _ := read_linkWords rfl _ _
    _ = .ok _ := read_commentWords rfl comment

/-! ## What reading keeps -/

/-- What every word keeps, the words of a command line keep. -/
theorem read_keeps {kept : Arguments → Prop}
    (value : ∀ {before after value flag}, kept before → before.setValue value flag = .ok after →
      kept after)
    (flag : ∀ {before after flag}, kept before → before.setFlag flag = .ok after → kept after)
    (comment : ∀ {before after value}, kept before → before.setComment value = .ok after →
      kept after)
    {before after : Arguments} {words : List String} (holds : kept before)
    (reads : before.read words = .ok after) : kept after := by
  fun_induction read before words with
  | case1 before =>
      cases reads
      exact holds
  | case2 => cases reads
  | case3 before word words isEnd =>
      induction words generalizing before with
      | nil =>
          cases reads
          exact holds
      | cons path words ih =>
          obtain ⟨next, sets, rest⟩ := bind_eq_ok.mp reads
          exact ih next (comment holds sets) rest
  | case4 before word words isPlain ih =>
      obtain ⟨next, sets, rest⟩ := bind_eq_ok.mp reads
      exact ih next (comment holds sets) rest
  | case5 before word words flag attached isOption ih =>
      obtain ⟨next, sets, rest⟩ := bind_eq_ok.mp reads
      exact ih next (value holds sets) rest
  | case6 => cases reads
  | case7 before word flag isOption taken text words isPlain ih =>
      obtain ⟨next, sets, rest⟩ := bind_eq_ok.mp reads
      exact ih next (value holds sets) rest
  | case8 => cases reads
  | case9 before word words flagSet isOption taken ih =>
      obtain ⟨next, sets, rest⟩ := bind_eq_ok.mp reads
      exact ih next (flag holds sets) rest

theorem setOnce_pathValue?_nonempty {current path? : Option String} {value : String}
    (sets : setOnce current (pathValue? value) = .ok path?) : some "" ≠ path? := by
  cases current with
  | some held => cases sets
  | none =>
      by_cases empty : value = ""
      · subst empty
        cases sets
      · simp [setOnce, pathValue?, empty] at sets
        subst sets
        simpa using Ne.symm empty

theorem NoEmptyPath.setValue {before after : Arguments} {value : String} {flag : Flag}
    (paths : before.NoEmptyPath) (sets : before.setValue value flag = .ok after) :
    after.NoEmptyPath := by
  simp only [NoEmptyPath, List.mem_cons, List.not_mem_nil, or_false, not_or] at paths ⊢
  obtain ⟨comment, declaration, config, source, output⟩ := paths
  cases flag with
  | declaration =>
      obtain ⟨path?, once, set⟩ := bind_eq_ok.mp sets
      cases set
      exact ⟨comment, setOnce_pathValue?_nonempty once, config, source, output⟩
  | config =>
      obtain ⟨path?, once, set⟩ := bind_eq_ok.mp sets
      cases set
      exact ⟨comment, declaration, setOnce_pathValue?_nonempty once, source, output⟩
  | source =>
      obtain ⟨path?, once, set⟩ := bind_eq_ok.mp sets
      cases set
      exact ⟨comment, declaration, config, setOnce_pathValue?_nonempty once, output⟩
  | output =>
      obtain ⟨path?, once, set⟩ := bind_eq_ok.mp sets
      cases set
      exact ⟨comment, declaration, config, source, setOnce_pathValue?_nonempty once⟩
  | dialect | style | policy | includeMode =>
      obtain ⟨other, once, set⟩ := bind_eq_ok.mp sets
      cases set
      exact ⟨comment, declaration, config, source, output⟩
  | keepRepeatedLinks | help => cases sets

theorem NoEmptyPath.setFlag {before after : Arguments} {flag : Flag}
    (paths : before.NoEmptyPath) (sets : before.setFlag flag = .ok after) :
    after.NoEmptyPath := by
  cases flag with
  | keepRepeatedLinks =>
      rw [Arguments.setFlag] at sets
      split at sets
      · cases sets
      · cases sets
        exact paths
  | declaration | dialect | style | config | policy | includeMode | source | output | help =>
      cases sets

theorem NoEmptyPath.setComment {before after : Arguments} {value : String}
    (paths : before.NoEmptyPath) (sets : before.setComment value = .ok after) :
    after.NoEmptyPath := by
  simp only [NoEmptyPath, List.mem_cons, List.not_mem_nil, or_false, not_or] at paths ⊢
  obtain ⟨path?, once, set⟩ := bind_eq_ok.mp sets
  cases set
  exact ⟨setOnce_pathValue?_nonempty once, paths.2⟩

theorem ofWords_eq_ok {arguments : Arguments} {words : List String} :
    ofWords words = .ok arguments ↔
      ({} : Arguments).read words = .ok arguments ∧ arguments.declaration?.isSome := by
  rw [ofWords, bind_eq_ok]
  constructor
  · intro accepted
    obtain ⟨found, reads, accepted⟩ := accepted
    split at accepted
    · cases accepted
    next named =>
      cases accepted
      exact ⟨reads, by simpa [Option.isSome_iff_ne_none] using named⟩
  · intro accepted
    obtain ⟨reads, named⟩ := accepted
    refine ⟨arguments, reads, ?_⟩
    rw [if_neg (by simpa [Option.isSome_iff_ne_none] using named)]
    rfl

theorem noEmptyPath_of_ofWords {arguments : Arguments} {words : List String}
    (accepted : ofWords words = .ok arguments) : arguments.NoEmptyPath := by
  have start : ({} : Arguments).NoEmptyPath := by simp [NoEmptyPath]
  exact read_keeps NoEmptyPath.setValue NoEmptyPath.setFlag NoEmptyPath.setComment start
    (ofWords_eq_ok.mp accepted).1

/-- Arguments with a declaration and without empty paths are those that command lines have. -/
theorem exists_ofWords_iff {arguments : Arguments} :
    (∃ words, ofWords words = .ok arguments) ↔
      arguments.declaration?.isSome ∧ arguments.NoEmptyPath := by
  constructor
  · intro accepted
    obtain ⟨words, accepted⟩ := accepted
    exact ⟨(ofWords_eq_ok.mp accepted).2, noEmptyPath_of_ofWords accepted⟩
  · intro expressible
    obtain ⟨named, paths⟩ := expressible
    exact ⟨arguments.words, ofWords_eq_ok.mpr ⟨read_words paths, named⟩⟩

theorem NoEmptyPath.withoutOutput {arguments : Arguments} (paths : arguments.NoEmptyPath) :
    ({ arguments with output? := none } : Arguments).NoEmptyPath := by
  simp only [NoEmptyPath, List.mem_cons, List.not_mem_nil, or_false, not_or] at paths ⊢
  obtain ⟨comment, declaration, config, source, -⟩ := paths
  exact ⟨comment, declaration, config, source, Option.some_ne_none _⟩

end Arguments

end DocPreview.CommandLine
