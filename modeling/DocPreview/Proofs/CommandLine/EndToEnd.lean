import DocPreview.CommandLine.Run
import DocPreview.Proofs.CommandLine.Wording
import DocPreview.Proofs.FileTree.Writing

/-!
# A run from end to end

A run loads four inputs one after the other and then delivers a page. Each of the five steps
passes or fails for a reason of its own, and the first that fails makes the complaint. When none
does, the page of the inputs is delivered, and it is the same page wherever it goes.
-/

set_option autoImplicit false

namespace DocPreview.CommandLine

/-! ## What the steps do -/

structure Inputs where
  /-- The options of the options file, or the defaults, before the command line has its say. -/
  options : OptionSet
  style : Style
  declaration : Declaration
  comment : String

section

variable (arguments : Arguments) (surroundings : Surroundings)

inductive LoadsOptions : OptionSet → Prop where
  | defaults : arguments.config? = none → LoadsOptions {}
  | file {path text : String} {options : OptionSet} :
      arguments.config? = some path → surroundings.files.read (Path.ofText path) = .ok text →
      OptionSet.ofToml? text = some options → LoadsOptions options

inductive LoadsDeclaration : Declaration → Prop where
  | file {path text : String} {value : Json} {declaration : Declaration} :
      arguments.declaration? = some path →
      surroundings.files.read (Path.ofText path) = .ok text →
      Json.ofText? text = some value → Declaration.ofJson? value = some declaration →
      LoadsDeclaration declaration

inductive LoadsComment : String → Prop where
  | file {path text : String} :
      arguments.comment? = some path → surroundings.files.read (Path.ofText path) = .ok text →
      LoadsComment text
  | input {text : String} :
      arguments.comment? = none → surroundings.input? = some text → LoadsComment text

structure Loads (inputs : Inputs) : Prop where
  options : LoadsOptions arguments surroundings inputs.options
  style : Style.ofName? (arguments.style?.getD "classic") = some inputs.style
  declaration : LoadsDeclaration arguments surroundings inputs.declaration
  comment : LoadsComment arguments surroundings inputs.comment

def Writable : Prop :=
  ∀ path, arguments.output? = some path →
    ∃ target, surroundings.files.WritesTo (Path.ofText path) target

inductive Step where
  | options | style | declaration | comment | output
deriving DecidableEq

def Step.position : Step → Nat
  | .options => 0
  | .style => 1
  | .declaration => 2
  | .comment => 3
  | .output => 4

inductive Fails : Step → Failure → Prop where
  | unreadableOptions {path : String} {fault : FileFault} :
      arguments.config? = some path →
      surroundings.files.read (Path.ofText path) = .error fault →
      Fails .options (.options (.unreadable path fault))
  | malformedOptions {path text : String} :
      arguments.config? = some path → surroundings.files.read (Path.ofText path) = .ok text →
      OptionSet.ofToml? text = none → Fails .options (.options .malformed)
  | unknownStyle {name : String} :
      arguments.style?.getD "classic" = name → Style.ofName? name = none →
      Fails .style (.unknownStyle name)
  | unreadableDeclaration {path : String} {fault : FileFault} :
      arguments.declaration? = some path →
      surroundings.files.read (Path.ofText path) = .error fault →
      Fails .declaration (.unreadableDeclaration path)
  | malformedDeclaration {path text : String} :
      arguments.declaration? = some path →
      surroundings.files.read (Path.ofText path) = .ok text →
      (∀ value, Json.ofText? text = some value → Declaration.ofJson? value = none) →
      Fails .declaration (.malformedDeclaration path)
  | unreadableComment {path : String} {fault : FileFault} :
      arguments.comment? = some path →
      surroundings.files.read (Path.ofText path) = .error fault →
      Fails .comment (.unreadableComment path)
  | unreadableInput :
      arguments.comment? = none → surroundings.input? = none → Fails .comment .unreadableInput
  | unwritable {path : String} :
      arguments.output? = some path →
      (∀ target, ¬ surroundings.files.WritesTo (Path.ofText path) target) →
      Fails .output (.unwritable path)

/-- A step fails, and none before it does. -/
structure FailsFirst (step : Step) (failure : Failure) : Prop where
  fails : Fails arguments surroundings step failure
  first : ∀ earlier other, earlier.position < step.position →
    ¬ Fails arguments surroundings earlier other

end

/-- Options with the settings of a command line: what it sets counts, and everything else is
kept. -/
structure Overlays (arguments : Arguments) (base options : OptionSet) : Prop where
  tagPolicy : options.tagPolicy = arguments.policy?.getD base.tagPolicy
  includeMode : options.includeMode = arguments.includeMode?.getD base.includeMode
  keptLinks : arguments.keepRepeatedLinks = true → options.suppressDuplicateLinks = false
  droppedLinks : arguments.keepRepeatedLinks = false →
    options.suppressDuplicateLinks = base.suppressDuplicateLinks
  recognizedTags : options.recognizedTags = base.recognizedTags
  tabs : options.tabs = base.tabs

theorem overlays_iff {arguments : Arguments} {base options : OptionSet} :
    Overlays arguments base options ↔ options = arguments.overlay base := by
  constructor
  · intro overlays
    obtain ⟨recognizedTags, tagPolicy, suppressDuplicateLinks, includeMode, tabs⟩ := options
    obtain ⟨policy, mode, kept, dropped, tags, tabs⟩ := overlays
    dsimp only at policy mode kept dropped tags tabs
    subst policy mode tags tabs
    cases keep : arguments.keepRepeatedLinks with
    | false => rw [dropped keep, Arguments.overlay, keep, Bool.not_false, Bool.true_and]
    | true => rw [kept keep, Arguments.overlay, keep, Bool.not_true, Bool.false_and]
  · intro same
    subst same
    exact ⟨rfl, rfl, fun keep => by simp [Arguments.overlay, keep],
      fun keep => by simp [Arguments.overlay, keep], rfl, rfl⟩

variable {arguments : Arguments} {surroundings : Surroundings}

/-! ## The steps one by one -/

theorem LoadsOptions.options_eq {base : OptionSet}
    (loads : LoadsOptions arguments surroundings base) :
    arguments.options surroundings.files = .ok (arguments.overlay base) := by
  cases loads with
  | defaults unnamed => rw [Arguments.options, unnamed]
  | file named reads describes =>
      simp only [Arguments.options, named, OptionSet.load, reads, describes]

theorem Fails.options_eq {failure : Failure}
    (fails : Fails arguments surroundings .options failure) :
    arguments.options surroundings.files = .error failure := by
  cases fails with
  | unreadableOptions named unreadable =>
      simp only [Arguments.options, named, OptionSet.load, unreadable]
  | malformedOptions named reads malformed =>
      simp only [Arguments.options, named, OptionSet.load, reads, malformed]

theorem options_load_or_fail :
    (∃ base, LoadsOptions arguments surroundings base) ∨
      ∃ failure, Fails arguments surroundings .options failure := by
  cases named : arguments.config? with
  | none => exact .inl ⟨_, .defaults named⟩
  | some path =>
      cases reads : surroundings.files.read (Path.ofText path) with
      | error fault => exact .inr ⟨_, .unreadableOptions named reads⟩
      | ok text =>
          cases describes : OptionSet.ofToml? text with
          | none => exact .inr ⟨_, .malformedOptions named reads describes⟩
          | some options => exact .inl ⟨_, .file named reads describes⟩

theorem style_eq_of_known {style : Style}
    (known : Style.ofName? (arguments.style?.getD "classic") = some style) :
    arguments.style = .ok style := by
  simp only [Arguments.style, known]

theorem Fails.style_eq {failure : Failure}
    (fails : Fails arguments surroundings .style failure) :
    arguments.style = .error failure := by
  cases fails with
  | unknownStyle named unknown => simp only [Arguments.style, named, unknown]

theorem style_known_or_fails :
    (∃ style, Style.ofName? (arguments.style?.getD "classic") = some style) ∨
      ∃ failure, Fails arguments surroundings .style failure := by
  cases known : Style.ofName? (arguments.style?.getD "classic") with
  | none => exact .inr ⟨_, .unknownStyle rfl known⟩
  | some style => exact .inl ⟨style, rfl⟩

theorem LoadsDeclaration.declaration_eq {declaration : Declaration}
    (loads : LoadsDeclaration arguments surroundings declaration) :
    arguments.declaration surroundings.files = .ok declaration := by
  cases loads with
  | file named reads parses describes =>
      simp only [Arguments.declaration, named, Option.getD_some, reads, parses, Option.bind_some,
        describes]

theorem Fails.declaration_eq {failure : Failure}
    (fails : Fails arguments surroundings .declaration failure) :
    arguments.declaration surroundings.files = .error failure := by
  cases fails with
  | unreadableDeclaration named unreadable =>
      simp only [Arguments.declaration, named, Option.getD_some, unreadable]
  | malformedDeclaration named reads malformed =>
      simp only [Arguments.declaration, named, Option.getD_some, reads,
        Option.bind_eq_none_iff.mpr malformed]

theorem declaration_loads_or_fails (named : arguments.declaration?.isSome) :
    (∃ declaration, LoadsDeclaration arguments surroundings declaration) ∨
      ∃ failure, Fails arguments surroundings .declaration failure := by
  obtain ⟨path, named⟩ := Option.isSome_iff_exists.mp named
  cases reads : surroundings.files.read (Path.ofText path) with
  | error fault => exact .inr ⟨_, .unreadableDeclaration named reads⟩
  | ok text =>
      cases described : (Json.ofText? text).bind Declaration.ofJson? with
      | none =>
          exact .inr ⟨_, .malformedDeclaration named reads (Option.bind_eq_none_iff.mp described)⟩
      | some declaration =>
          obtain ⟨value, parses, describes⟩ := Option.bind_eq_some_iff.mp described
          exact .inl ⟨declaration, .file named reads parses describes⟩

theorem LoadsComment.comment_eq {comment : String}
    (loads : LoadsComment arguments surroundings comment) :
    arguments.comment surroundings = .ok comment := by
  cases loads with
  | file named reads => simp only [Arguments.comment, named, reads]
  | input unnamed given => simp only [Arguments.comment, unnamed, given]

theorem Fails.comment_eq {failure : Failure}
    (fails : Fails arguments surroundings .comment failure) :
    arguments.comment surroundings = .error failure := by
  cases fails with
  | unreadableComment named unreadable => simp only [Arguments.comment, named, unreadable]
  | unreadableInput unnamed missing => simp only [Arguments.comment, unnamed, missing]

theorem comment_loads_or_fails :
    (∃ comment, LoadsComment arguments surroundings comment) ∨
      ∃ failure, Fails arguments surroundings .comment failure := by
  cases named : arguments.comment? with
  | none =>
      cases given : surroundings.input? with
      | none => exact .inr ⟨_, .unreadableInput named given⟩
      | some text => exact .inl ⟨text, .input named given⟩
  | some path =>
      cases reads : surroundings.files.read (Path.ofText path) with
      | error fault => exact .inr ⟨_, .unreadableComment named reads⟩
      | ok text => exact .inl ⟨text, .file named reads⟩

theorem writable_or_fails :
    Writable arguments surroundings ∨
      ∃ failure, Fails arguments surroundings .output failure := by
  cases named : arguments.output? with
  | none => exact .inl fun path given => by simp [named] at given
  | some path =>
      by_cases reachable : ∃ target, surroundings.files.WritesTo (Path.ofText path) target
      · refine .inl fun other given => ?_
        rw [named] at given
        cases given
        exact reachable
      · exact .inr ⟨_, .unwritable named (not_exists.mp reachable)⟩

/-! ## The whole run -/

def Inputs.page (inputs : Inputs) (arguments : Arguments) (options : OptionSet)
    (files : FileTree) : String :=
  let previewer : Previewer := { options, style := inputs.style }
  (previewer.page files {
    declaration := inputs.declaration
    dialect := arguments.dialect?.getD .csharp
    comment := inputs.comment
    source? := (arguments.source?.or arguments.comment?).map Path.ofText }).1

theorem Loads.page_eq {inputs : Inputs} (loads : Loads arguments surroundings inputs) :
    arguments.page surroundings =
      .ok (inputs.page arguments (arguments.overlay inputs.options) surroundings.files) := by
  rw [Arguments.page, loads.options.options_eq, style_eq_of_known loads.style,
    loads.declaration.declaration_eq, loads.comment.comment_eq]
  rfl

theorem run_of_ofWords {words : List String} (accepted : Arguments.ofWords words = .ok arguments)
    (now : Nat) :
    run surroundings now words =
      arguments.deliver surroundings.files now (arguments.page surroundings) := by
  rw [run, accepted]

/-! ### Failing -/

/-- When a step fails, some step is the first to. -/
theorem Fails.exists_first {step : Step} {failure : Failure}
    (fails : Fails arguments surroundings step failure) :
    ∃ first complaint, FailsFirst arguments surroundings first complaint := by
  induction position : step.position using Nat.strong_induction_on generalizing step failure with
  | _ count ih =>
      by_cases earlier : ∃ before other, before.position < step.position ∧
          Fails arguments surroundings before other
      · obtain ⟨before, other, less, failsBefore⟩ := earlier
        exact ih before.position (position ▸ less) failsBefore rfl
      · exact ⟨step, failure, fails, fun before other less failsBefore =>
          earlier ⟨before, other, less, failsBefore⟩⟩

theorem exists_loads (named : arguments.declaration?.isSome)
    (passed : ∀ step, step ≠ .output → ¬ ∃ failure, Fails arguments surroundings step failure) :
    ∃ inputs, Loads arguments surroundings inputs := by
  obtain ⟨options, loadsOptions⟩ :=
    options_load_or_fail.resolve_right (passed .options (by decide))
  obtain ⟨style, known⟩ := style_known_or_fails.resolve_right (passed .style (by decide))
  obtain ⟨declaration, loadsDeclaration⟩ :=
    (declaration_loads_or_fails named).resolve_right (passed .declaration (by decide))
  obtain ⟨comment, loadsComment⟩ :=
    comment_loads_or_fails.resolve_right (passed .comment (by decide))
  exact ⟨⟨options, style, declaration, comment⟩,
    loadsOptions, known, loadsDeclaration, loadsComment⟩

theorem all_pass_or_first_fails (named : arguments.declaration?.isSome) :
    ((∃ inputs, Loads arguments surroundings inputs) ∧ Writable arguments surroundings) ∨
      ∃ step failure, FailsFirst arguments surroundings step failure := by
  by_cases failed : ∃ step failure, Fails arguments surroundings step failure
  · obtain ⟨step, failure, fails⟩ := failed
    exact .inr fails.exists_first
  · have passed : ∀ step, ¬ ∃ failure, Fails arguments surroundings step failure :=
      not_exists.mp failed
    exact .inl ⟨exists_loads named fun step _ => passed step,
      writable_or_fails.resolve_right (passed .output)⟩

theorem FailsFirst.passed {step : Step} {failure : Failure}
    (fails : FailsFirst arguments surroundings step failure) (earlier : Step)
    (before : earlier.position < step.position) :
    ¬ ∃ other, Fails arguments surroundings earlier other :=
  fun failed => failed.elim fun other failsBefore => fails.first earlier other before failsBefore

theorem deliver_unwritable {path : String} {files : FileTree}
    (named : arguments.output? = some path)
    (unwritable : ∀ target, ¬ files.WritesTo (Path.ofText path) target) (now : Nat)
    (page : String) :
    arguments.deliver files now (.ok page) =
      { code := 1, complaint? := some (errorLine (.unwritable path)), files } := by
  cases written : files.write (Path.ofText path) page now with
  | error fault => simp only [Arguments.deliver, named, written]
  | ok after =>
      obtain ⟨target, writes, -⟩ := FileTree.read_write written
      exact absurd writes (unwritable target)

/-- A run whose first failure this is changes nothing and prints nothing. -/
theorem FailsFirst.deliver_eq {step : Step} {failure : Failure}
    (fails : FailsFirst arguments surroundings step failure)
    (named : arguments.declaration?.isSome) (now : Nat) :
    arguments.deliver surroundings.files now (arguments.page surroundings) =
      { code := 1, output := "", complaint? := some (errorLine failure),
        files := surroundings.files } := by
  cases step with
  | options =>
      rw [Arguments.page, fails.fails.options_eq]
      rfl
  | style =>
      obtain ⟨options, loadsOptions⟩ :=
        options_load_or_fail.resolve_right (fails.passed .options (by decide))
      rw [Arguments.page, loadsOptions.options_eq, fails.fails.style_eq]
      rfl
  | declaration =>
      obtain ⟨options, loadsOptions⟩ :=
        options_load_or_fail.resolve_right (fails.passed .options (by decide))
      obtain ⟨style, known⟩ :=
        style_known_or_fails.resolve_right (fails.passed .style (by decide))
      rw [Arguments.page, loadsOptions.options_eq, style_eq_of_known known,
        fails.fails.declaration_eq]
      rfl
  | comment =>
      obtain ⟨options, loadsOptions⟩ :=
        options_load_or_fail.resolve_right (fails.passed .options (by decide))
      obtain ⟨style, known⟩ :=
        style_known_or_fails.resolve_right (fails.passed .style (by decide))
      obtain ⟨declaration, loadsDeclaration⟩ :=
        (declaration_loads_or_fails named).resolve_right
          (fails.passed .declaration (by decide))
      rw [Arguments.page, loadsOptions.options_eq, style_eq_of_known known,
        loadsDeclaration.declaration_eq, fails.fails.comment_eq]
      rfl
  | output =>
      obtain ⟨inputs, loads⟩ := exists_loads named fun step loading =>
        fails.passed step (by cases step <;> simp_all [Step.position])
      rw [loads.page_eq]
      cases fails.fails with
      | unwritable given unwritable => exact deliver_unwritable given unwritable _ _

/-! ### Succeeding -/

/-- A page is delivered: printed, or else written, and then nothing but its file has changed. -/
structure Delivers (arguments : Arguments) (files : FileTree) (now : Nat) (page : String)
    (outcome : Outcome) : Prop where
  succeeds : outcome.code = 0 ∧ outcome.complaint? = none
  prints : arguments.output? = none → outcome.output = page ∧ outcome.files = files
  writes : ∀ path, arguments.output? = some path →
    outcome.output = "" ∧ outcome.files.read (Path.ofText path) = .ok page ∧
      ∃ target, files.WritesTo (Path.ofText path) target ∧
        outcome.files.entry? target = some (.file ⟨some page, now⟩) ∧
        ∀ location, location ≠ target →
          outcome.files.entry? location = files.entry? location

theorem deliver_unnamed (unnamed : arguments.output? = none) (files : FileTree) (now : Nat)
    (page : String) :
    arguments.deliver files now (.ok page) = { code := 0, output := page, files } := by
  simp only [Arguments.deliver, unnamed]

theorem Writable.delivers (writable : Writable arguments surroundings) (now : Nat)
    (page : String) :
    Delivers arguments surroundings.files now page
      (arguments.deliver surroundings.files now (.ok page)) := by
  cases named : arguments.output? with
  | none =>
      rw [deliver_unnamed named]
      exact ⟨⟨rfl, rfl⟩, fun _ => ⟨rfl, rfl⟩, fun path given => by simp [named] at given⟩
  | some path =>
      obtain ⟨target, writes⟩ := writable path named
      cases written : surroundings.files.write (Path.ofText path) page now with
      | error fault =>
          rw [FileTree.write, FileTree.locateTarget_eq_ok.mpr writes] at written
          cases written
      | ok after =>
          have outcome : arguments.deliver surroundings.files now (.ok page) =
              { code := 0, files := after } := by
            simp only [Arguments.deliver, named, written]
          rw [outcome]
          refine ⟨⟨rfl, rfl⟩, fun unnamed => by simp [named] at unnamed, fun other given => ?_⟩
          rw [named] at given
          cases given
          obtain ⟨target, writes, reads, holds, others⟩ := FileTree.read_write written
          exact ⟨rfl, reads, target, writes, holds, others⟩

/-- A command line is carried out from end to end. It succeeds exactly when its inputs load and its
output can be written, and otherwise the first step that fails makes the complaint, with nothing
printed and no file changed. The page is that of the inputs, with the options of the options file
under the settings of the command line, and a file that is written receives what would have been
printed. -/
theorem run_from_end_to_end {words : List String}
    (accepted : Arguments.ofWords words = .ok arguments) (surroundings : Surroundings)
    (now : Nat) :
    ((run surroundings now words).code = 0 ↔
      (∃ inputs, Loads arguments surroundings inputs) ∧ Writable arguments surroundings) ∧
    ((run surroundings now words).code ≠ 0 →
      ∃ step failure, FailsFirst arguments surroundings step failure) ∧
    (∀ step failure, FailsFirst arguments surroundings step failure →
      run surroundings now words =
        { code := 1, output := "", complaint? := some (errorLine failure),
          files := surroundings.files }) ∧
    (∀ inputs options, Loads arguments surroundings inputs → Writable arguments surroundings →
      Overlays arguments inputs.options options →
      Delivers arguments surroundings.files now
        (inputs.page arguments options surroundings.files) (run surroundings now words)) ∧
    (∃ printing, Arguments.ofWords printing = .ok { arguments with output? := none }) ∧
    ∀ printing, Arguments.ofWords printing = .ok { arguments with output? := none } →
      ∀ inputs options, Loads arguments surroundings inputs →
        Overlays arguments inputs.options options →
        (run surroundings now printing).output =
          inputs.page arguments options surroundings.files := by
  have named := (Arguments.ofWords_eq_ok.mp accepted).2
  have outcome : run surroundings now words =
      arguments.deliver surroundings.files now (arguments.page surroundings) :=
    run_of_ofWords accepted now
  have failure : ∀ step failure, FailsFirst arguments surroundings step failure →
      run surroundings now words =
        { code := 1, output := "", complaint? := some (errorLine failure),
          files := surroundings.files } :=
    fun step failure fails => outcome.trans (fails.deliver_eq named now)
  have success : ∀ inputs, Loads arguments surroundings inputs →
      Writable arguments surroundings →
      Delivers arguments surroundings.files now
        (inputs.page arguments (arguments.overlay inputs.options) surroundings.files)
        (run surroundings now words) := by
    intro inputs loads writable
    rw [outcome, loads.page_eq]
    exact writable.delivers now _
  refine ⟨⟨fun succeeds => ?_, fun passes => ?_⟩, fun fails => ?_, failure, ?_, ?_, ?_⟩
  · refine (all_pass_or_first_fails named).resolve_right fun failed => ?_
    obtain ⟨step, complaint, fails⟩ := failed
    rw [failure step complaint fails] at succeeds
    cases succeeds
  · obtain ⟨⟨inputs, loads⟩, writable⟩ := passes
    exact (success inputs loads writable).succeeds.1
  · refine (all_pass_or_first_fails named).resolve_left fun passes => fails ?_
    obtain ⟨⟨inputs, loads⟩, writable⟩ := passes
    exact (success inputs loads writable).succeeds.1
  · intro inputs options loads writable overlays
    rw [overlays_iff.mp overlays]
    exact success inputs loads writable
  · exact Arguments.exists_ofWords_iff.mpr
      ⟨named, (Arguments.noEmptyPath_of_ofWords accepted).withoutOutput⟩
  · intro printing printed inputs options loads overlays
    have same : Arguments.page { arguments with output? := none } surroundings =
        arguments.page surroundings := rfl
    rw [run_of_ofWords printed, same, loads.page_eq, deliver_unnamed rfl,
      overlays_iff.mp overlays]

/-- Two settings of options meet, and the page is written. -/
theorem run_from_end_to_end_written_page :
    let words := ["-d", "d.json", "--policy=hide", "-c", "o.toml", "-op.html"]
    let arguments : Arguments :=
      { declaration? := some "d.json", policy? := some .hide, config? := some "o.toml",
        output? := some "p.html" }
    let surroundings : Surroundings :=
      { files := ⟨[], [(["d.json"], .file ⟨some "\x7b\"name\": \"Go\"\x7d", 1⟩),
          (["o.toml"], .file ⟨some "include_mode = 'none'", 2⟩)]⟩
        input? := some "/// <summary>Starts.</summary>" }
    let inputs : Inputs :=
      { options := { includeMode := .none }, style := Classic.style,
        declaration := { name := "Go" }, comment := "/// <summary>Starts.</summary>" }
    Arguments.ofWords words = .ok arguments ∧
      Delivers arguments surroundings.files 5
        (inputs.page arguments { includeMode := .none, tagPolicy := .hide } surroundings.files)
        (run surroundings 5 words) := by
  have describesOptions : OptionSet.ofToml? "include_mode = 'none'" =
      some { includeMode := .none } := by decide +kernel
  have described : (Json.ofText? "\x7b\"name\": \"Go\"\x7d").bind Declaration.ofJson? =
      some { name := "Go" } := by decide +kernel
  obtain ⟨value, parses, describes⟩ := Option.bind_eq_some_iff.mp described
  intro words arguments surroundings inputs
  have accepted : Arguments.ofWords words = .ok arguments := rfl
  have readsOptions : surroundings.files.read (Path.ofText "o.toml") =
      .ok "include_mode = 'none'" := rfl
  have readsDeclaration : surroundings.files.read (Path.ofText "d.json") =
      .ok "\x7b\"name\": \"Go\"\x7d" := rfl
  have loads : Loads arguments surroundings inputs :=
    ⟨.file rfl readsOptions describesOptions, rfl,
      .file rfl readsDeclaration parses describes, .input rfl rfl⟩
  have writable : Writable arguments surroundings := by
    intro path named
    cases named
    exact ⟨["p.html"], FileTree.locateTarget_eq_ok.mp rfl⟩
  obtain ⟨-, -, -, delivers, -⟩ := run_from_end_to_end accepted surroundings 5
  exact ⟨accepted, delivers inputs _ loads writable (overlays_iff.mpr rfl)⟩

end DocPreview.CommandLine
