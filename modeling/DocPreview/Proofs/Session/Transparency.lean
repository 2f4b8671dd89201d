import DocPreview.Previewer
import DocPreview.Proofs.Include.FileHistory
import DocPreview.Proofs.Page.SignatureUse
import DocPreview.Proofs.Signature.CallHistory

/-!
# Sessions leave no trace

Options, style and two caches live from one request to the next. Only options and style show on
a page: every request is answered as by a previewer made for it alone. The count of rendered
signatures is told from the requests, without the cache.
-/

set_option autoImplicit false

namespace DocPreview

open FileTree (TimesDetermineTexts)
open SignatureCache (Call current? streak Reflects)

structure Session where
  files : FileTree
  previewer : Previewer

structure BodyRequest where
  root : Element
  declaration : Declaration
  dialect : Dialect
  source? : Option Path := none

namespace Session

inductive Step where
  | setOptions (options : OptionSet)
  | setStyle (style : Style)
  | edit (change : FileChange)
  | page (request : PreviewRequest)
  | body (request : BodyRequest)

inductive Answer where
  | page (text : String)
  | body (markup : List Html)

def renderBody (session : Session) (request : BodyRequest) : List Html × Previewer :=
  session.previewer.renderBody session.files request.root request.declaration request.dialect
    request.source?

def answer? (session : Session) : Step → Option Answer
  | .page request => some (.page (session.previewer.page session.files request).1)
  | .body request => some (.body (session.renderBody request).1)
  | .setOptions _ | .setStyle _ | .edit _ => none

def after (session : Session) : Step → Session
  | .setOptions options => { session with previewer := session.previewer.setOptions options }
  | .setStyle style => { session with previewer := session.previewer.setStyle style }
  | .edit change => { session with files := session.files.change change }
  | .page request =>
    { session with previewer := (session.previewer.page session.files request).2 }
  | .body request => { session with previewer := (session.renderBody request).2 }

def run (session : Session) (steps : List Step) : Session :=
  steps.foldl after session

/-- A previewer with the options and the style in force, made anew. -/
def renewed (session : Session) : Session :=
  { files := session.files
    previewer := { options := session.previewer.options, style := session.previewer.style } }

def renders (session : Session) : Nat :=
  session.previewer.signatureRenders

def Step.change? : Step → Option FileChange
  | .edit change => some change
  | _ => none

def changes (steps : List Step) : List FileChange :=
  steps.filterMap Step.change?

/-- The body that a step asks for, be it alone or on a page. -/
def Step.request? : Step → Option BodyRequest
  | .page request =>
    some ⟨Comment.parse request.dialect request.comment, request.declaration, request.dialect,
      request.source?⟩
  | .body request => some request
  | .setOptions _ | .setStyle _ | .edit _ => none

/-! ## What a request amounts to without caches -/

def rendering (session : Session) (request : BodyRequest) : Rendered (List Html) :=
  session.previewer.style.applyRoot
    ⟨session.previewer.options, request.declaration, request.dialect,
      Signature.render request.declaration request.dialect⟩
    (Include.resolve ⟨session.files, session.previewer.options.includeMode⟩ request.source?
      request.root)

/-- The call on the signature cache that a step makes: that of its request, if the signature
shows on the body. -/
def signatureCall? (session : Session) (step : Step) : Option Call :=
  step.request?.bind fun request =>
    if (session.rendering request).showsSignature then
      some (.get request.declaration request.dialect)
    else none

def signatureCalls (session : Session) : List Step → List Call
  | [] => []
  | step :: steps =>
    (session.signatureCall? step).toList ++ (session.after step).signatureCalls steps

@[simp] theorem run_append_singleton (session : Session) (steps : List Step) (step : Step) :
    session.run (steps ++ [step]) = (session.run steps).after step := by
  simp [run]

@[simp] theorem signatureCalls_append_singleton (session : Session) (steps : List Step)
    (step : Step) :
    session.signatureCalls (steps ++ [step]) =
      session.signatureCalls steps ++ ((session.run steps).signatureCall? step).toList := by
  induction steps generalizing session with
  | nil => simp [signatureCalls, run]
  | cons first rest ih => simp [signatureCalls, run, ih]

theorem changes_append_singleton (steps : List Step) (step : Step) :
    changes (steps ++ [step]) = changes steps ++ step.change?.toList := by
  cases step <;> simp [changes, Step.change?]

theorem run_files (files : FileTree) (previewer : Previewer) (steps : List Step) :
    (run ⟨files, previewer⟩ steps).files = files.changeAll (changes steps) := by
  induction steps using List.reverseRecOn with
  | nil => rfl
  | append_singleton steps step ih =>
      rw [run_append_singleton, changes_append_singleton]
      cases step <;> simp [after, Step.change?, ih]

/-! ## One step -/

/-- The documents were read from the trees, and the signature cache is what the calls left
behind. -/
structure Sound (session : Session) (trees : List FileTree) (calls : List Call) : Prop where
  documents : session.previewer.documents.ReadFrom trees
  signatures : Reflects session.previewer.signatures calls

theorem renewed_sound (session : Session) (trees : List FileTree) :
    session.renewed.Sound trees [] :=
  ⟨Include.Cache.empty_readFrom trees, SignatureCache.empty_reflects⟩

section

variable {session : Session} {trees : List FileTree} {calls : List Call}

/-- With sound caches a request gets what it amounts to without them, and the signature cache is
called exactly if the signature shows. -/
theorem Sound.renderBody_eq (sound : session.Sound trees calls)
    (determined : TimesDetermineTexts trees) (current : session.files ∈ trees)
    (request : BodyRequest) :
    session.renderBody request =
      ((session.rendering request).value,
        { session.previewer with
          signatures :=
            if (session.rendering request).showsSignature then
              (session.previewer.signatures.getOrRender request.declaration request.dialect).2
            else session.previewer.signatures
          documents :=
            (Include.Cache.resolve ⟨session.files, session.previewer.options.includeMode⟩
              request.source? request.root session.previewer.documents).2 }) := by
  have resolved := (sound.documents.resolve determined current
    session.previewer.options.includeMode request.source? request.root).1
  have signature : (session.previewer.signatures.getOrRender request.declaration
      request.dialect).1 = Signature.render request.declaration request.dialect := by
    rw [sound.signatures.getOrRender_eq]
  simp only [renderBody, Previewer.renderBody, SignatureCache.supply, signature, rendering,
    ← resolved]
  rfl

theorem Sound.answer?_eq_renewed (sound : session.Sound trees calls)
    (determined : TimesDetermineTexts trees) (current : session.files ∈ trees) (step : Step) :
    session.answer? step = session.renewed.answer? step := by
  have same : ∀ request, (session.renderBody request).1 = (session.renewed.renderBody request).1 := by
    intro request
    rw [sound.renderBody_eq determined current,
      (session.renewed_sound trees).renderBody_eq determined current]
    rfl
  cases step with
  | setOptions options => rfl
  | setStyle style => rfl
  | edit change => rfl
  | page request =>
      have body := same ⟨Comment.parse request.dialect request.comment, request.declaration,
        request.dialect, request.source?⟩
      simp only [renderBody] at body
      simp only [answer?, Previewer.page, Previewer.body, body]
      rfl
  | body request => rw [answer?, answer?, same request]

theorem after_of_request {step : Step} {request : BodyRequest}
    (asks : step.request? = some request) :
    session.after step = { session with previewer := (session.renderBody request).2 } := by
  cases step with
  | setOptions _ | setStyle _ | edit _ => cases asks
  | page _ | body _ =>
      cases asks
      rfl

/-- Only requests touch the caches. -/
theorem after_of_no_request {step : Step} (silent : step.request? = none) :
    (session.after step).previewer.signatures = session.previewer.signatures ∧
      (session.after step).previewer.documents = session.previewer.documents := by
  cases step with
  | setOptions _ | setStyle _ | edit _ => exact ⟨rfl, rfl⟩
  | page _ | body _ => cases silent

theorem signatureCall?_of_request {step : Step} {request : BodyRequest}
    (asks : step.request? = some request) :
    session.signatureCall? step =
      if (session.rendering request).showsSignature then
        some (.get request.declaration request.dialect)
      else none := by
  simp [signatureCall?, asks]

theorem signatureCall?_of_no_request {step : Step} (silent : step.request? = none) :
    session.signatureCall? step = none := by
  simp [signatureCall?, silent]

theorem Sound.after (sound : session.Sound trees calls)
    (determined : TimesDetermineTexts trees) (current : session.files ∈ trees) (step : Step) :
    (session.after step).Sound trees (calls ++ (session.signatureCall? step).toList) := by
  cases asks : step.request? with
  | none =>
      obtain ⟨signatures, documents⟩ := session.after_of_no_request asks
      rw [signatureCall?_of_no_request asks, Option.toList_none, List.append_nil]
      exact ⟨documents ▸ sound.documents, signatures ▸ sound.signatures⟩
  | some request =>
      rw [after_of_request asks, signatureCall?_of_request asks,
        sound.renderBody_eq determined current]
      constructor
      · exact (sound.documents.resolve determined current _ request.source? request.root).2
      · by_cases shows : (session.rendering request).showsSignature
        · simpa only [shows, ↓reduceIte, Option.toList_some] using
            sound.signatures.get request.declaration request.dialect
        · simpa only [shows, Bool.false_eq_true, ↓reduceIte, Option.toList_none,
            List.append_nil] using sound.signatures

/-- A step renders a signature exactly if it calls the cache for a dialect that the run of calls
at the end did not ask for. -/
theorem Sound.renders_after (sound : session.Sound trees calls)
    (determined : TimesDetermineTexts trees) (current : session.files ∈ trees) (step : Step) :
    (session.after step).renders =
      match session.signatureCall? step with
      | some (.get declaration dialect) =>
        if dialect ∈ streak declaration calls then session.renders else session.renders + 1
      | _ => session.renders := by
  cases asks : step.request? with
  | none =>
      obtain ⟨signatures, _⟩ := session.after_of_no_request asks
      rw [signatureCall?_of_no_request asks, renders, Previewer.signatureRenders, signatures]
      rfl
  | some request =>
      rw [after_of_request asks, signatureCall?_of_request asks,
        sound.renderBody_eq determined current]
      by_cases shows : (session.rendering request).showsSignature
      · simp only [shows, ↓reduceIte, renders, Previewer.signatureRenders,
          sound.signatures.getOrRender_eq]
      · simp only [shows, Bool.false_eq_true, ↓reduceIte, renders, Previewer.signatureRenders]

end

/-! ## Whole sessions -/

theorem run_sound (files : FileTree) (options : OptionSet) (style : Style) (steps : List Step)
    (determined : TimesDetermineTexts (files.history (changes steps))) :
    (run ⟨files, { options, style }⟩ steps).Sound (files.history (changes steps))
      (signatureCalls ⟨files, { options, style }⟩ steps) := by
  induction steps using List.reverseRecOn with
  | nil => exact ⟨Include.Cache.empty_readFrom _, SignatureCache.empty_reflects⟩
  | append_singleton steps step ih =>
      rw [changes_append_singleton] at determined ⊢
      rw [run_append_singleton, signatureCalls_append_singleton]
      have included := files.history_subset_append (changes steps) step.change?.toList
      have before := determined.mono included
      have current := files.changeAll_mem_history (changes steps)
      rw [← run_files files { options, style }] at current
      have after := (ih before).after before current step
      exact ⟨after.documents.mono included, after.signatures⟩

end Session

end DocPreview
