import Mathlib
import DocSamples.Proofs.Document
import DocSamples.Proofs.Run.Parallel

namespace DocSamples

open Text

/-! # What is submitted to a compiler

Of all steps of a run only those that ask for a verdict submit a workspace.  So the
workspaces that a run has submitted are those of the sessions that can be compiled, in
the order of the documents and of their sessions.
-/

namespace Attempt

variable {ε ε' α β : Type}

/-- The workspaces that an attempt has submitted, in order. -/
def submissions (attempt : Attempt ε α) : List Workspace :=
  attempt.events.filterMap Event.submission?

@[simp] theorem submissions_pure (value : α) : (pure value : Attempt ε α).submissions = [] := rfl

@[simp] theorem submissions_done (value : α) : (done value : Attempt ε α).submissions = [] := rfl

@[simp] theorem submissions_fail (fault : ε) : (fail fault : Attempt ε α).submissions = [] := rfl

@[simp] theorem submissions_note (event : Event) :
    (note event : Attempt ε Unit).submissions = event.submission?.toList := by
  cases event <;> rfl

@[simp] theorem submissions_ofExcept (outcome : Except ε α) :
    (ofExcept outcome).submissions = [] := rfl

@[simp] theorem submissions_mapFault (attempt : Attempt ε α) (change : ε → ε') :
    (attempt.mapFault change).submissions = attempt.submissions := rfl

@[simp] theorem submissions_settled (attempt : Attempt ε α) :
    (attempt.settled : Attempt ε' (Except ε α)).submissions = attempt.submissions := rfl

theorem submissions_bind {first : Attempt ε α} {next : α → Attempt ε β} {value : α}
    (ends : first.outcome = .ok value) :
    (first >>= next).submissions = first.submissions ++ (next value).submissions := by
  change (first.andThen next).submissions = _
  simp [submissions, andThen, ends]

/-- What submits nothing at any of its steps submits nothing. -/
theorem submissions_bind_eq_nil {first : Attempt ε α} {next : α → Attempt ε β}
    (silent : first.submissions = []) (later : ∀ value, (next value).submissions = []) :
    (first >>= next).submissions = [] := by
  cases ends : first.outcome with
  | ok value => rw [submissions_bind ends, silent, later value, List.append_nil]
  | error fault =>
      change (first.andThen next).submissions = []
      simpa [submissions, andThen, ends] using silent

theorem submissions_each {attempt : α → Attempt ε β} {items : List α} {values : List β}
    (ends : (each attempt items).outcome = .ok values) :
    (each attempt items).submissions = items.flatMap fun item => (attempt item).submissions := by
  induction items generalizing values with
  | nil => rfl
  | cons item rest ih =>
      obtain ⟨value, first, remaining⟩ := bind_eq_ok.mp ends
      obtain ⟨others, later, _⟩ := bind_eq_ok.mp remaining
      rw [each, submissions_bind first, submissions_bind later, ih later]
      simp

theorem submissions_each_eq_nil {attempt : α → Attempt ε β} {items : List α}
    (silent : ∀ item ∈ items, (attempt item).submissions = []) :
    (each attempt items).submissions = [] := by
  induction items with
  | nil => rfl
  | cons item rest ih =>
      refine submissions_bind_eq_nil (silent item (by simp)) fun value => ?_
      exact submissions_bind_eq_nil (ih fun other member => silent other (by simp [member]))
        fun values => submissions_pure _

end Attempt

/-! ## Steps that submit nothing -/

theorem Document.submissions_fragments (tree : Tree) (document root : Path) :
    (Document.fragments tree document root).submissions = [] := by
  refine Attempt.submissions_bind_eq_nil rfl fun text => ?_
  refine Attempt.submissions_bind_eq_nil (Attempt.submissions_each_eq_nil ?_) fun found => rfl
  rintro ⟨line, block⟩ _
  cases block with
  | prose line => rfl
  | unclosed line opening body => rfl
  | fenced line opening body closing =>
      rw [Document.fragmentOf]
      split
      · exact Attempt.submissions_bind_eq_nil rfl fun fragment => rfl
      · rfl

theorem Discovery.submissions_documents (tree : Tree) (settings : DocumentSettings) :
    (Discovery.documents tree settings).submissions = [] := by
  refine Attempt.submissions_bind_eq_nil rfl fun there => ?_
  cases there with
  | true => exact Attempt.submissions_bind_eq_nil rfl fun found => rfl
  | false => rfl

theorem Sources.submissions_hostText (tree : Tree) (sources : Sources) (path : Path) :
    (sources.hostText tree path).submissions = [] := by
  unfold hostText
  split
  · rfl
  · refine Attempt.submissions_bind_eq_nil rfl fun isFile => ?_
    cases isFile with
    | false => rfl
    | true =>
        simp only [if_true]
        split
        · rfl
        · rfl

theorem Assembly.submissions_addBuffer (tree : Tree) (assembly : Assembly) (buffer : Buffer) :
    (assembly.addBuffer tree buffer).submissions = [] := by
  unfold addBuffer
  split
  · rfl
  · rfl
  · exact Attempt.submissions_bind_eq_nil (Sources.submissions_hostText _ _ _) fun host => rfl

theorem Workspace.submissions_sources (workspace : Workspace) (tree : Tree) :
    (workspace.sources tree).submissions = [] := by
  refine Attempt.submissions_bind_eq_nil ?_ fun assembly => rfl
  generalize (⟨Sources.ofFiles workspace.files, 0⟩ : Assembly) = assembly
  induction Buffer.mergeRegions workspace.buffers generalizing assembly with
  | nil => rfl
  | cons buffer rest ih =>
      exact Attempt.submissions_bind_eq_nil (Assembly.submissions_addBuffer _ _ _) ih

/-- A compiler does not submit workspaces by itself. -/
def Compiler.IsSilent (compiler : Compiler) : Prop :=
  ∀ workspace, (compiler.compile workspace).submissions = []

theorem Service.isSilent_compiler (service : Service) (bench : Workbench) :
    (service.compiler bench).IsSilent := by
  intro workspace
  cases service with
  | checker =>
      exact Attempt.submissions_bind_eq_nil (Workspace.submissions_sources _ _) fun sources => rfl
  | command command =>
      refine Attempt.submissions_bind_eq_nil ?_ fun prepared =>
        Attempt.submissions_bind_eq_nil rfl fun completion => rfl
      refine Attempt.submissions_bind_eq_nil (Workspace.submissions_sources _ _) fun sources => ?_
      exact Attempt.submissions_bind_eq_nil rfl fun made =>
        Attempt.submissions_bind_eq_nil rfl fun written => rfl

theorem Compiler.submissions_verify {compiler : Compiler} (silent : compiler.IsSilent)
    (workspace : Workspace) : (compiler.verify workspace).submissions = [workspace] := by
  have noted : (Attempt.note (.submitted workspace) : Attempt Breakdown Unit).outcome = .ok () := rfl
  have settled : (compiler.compile workspace).settled.outcome =
      (.ok (compiler.compile workspace).outcome : Except Breakdown _) := rfl
  rw [verify, Attempt.submissions_bind noted, Attempt.submissions_bind settled]
  simp only [Attempt.submissions_settled, silent workspace, Attempt.submissions_note]
  cases (compiler.compile workspace).outcome with
  | ok result => rfl
  | error fault => cases fault <;> rfl

/-! ## Runs -/

namespace RunPlan

variable {plan : RunPlan} {document : Path} {outcome : DocumentOutcome} {result : RunResult}

/-- The workspaces of those sessions of a document that can be compiled. -/
def unitsOf (plan : RunPlan) (document : Path) : List Workspace :=
  match (Document.fragments plan.tree document plan.root).outcome with
  | .error _ => []
  | .ok fragments =>
      match Includes.collect plan.tree plan.includeDefaults fragments with
      | .error _ => []
      | .ok includes =>
          ((Session.ofFragments fragments).filter (·.isCompilable)).map (.ofSession · includes)

/-- What is told of a document: that it cannot be read, or each of its sessions in order, with
the verdict on its own workspace if it has one. -/
inductive Accounts (plan : RunPlan) (document : Path) : DocumentOutcome → Prop
  | unreadable {fault : ReadFault}
      (unread : (Document.fragments plan.tree document plan.root).outcome =
        .error (.unreadable document fault)) :
      Accounts plan document { document, error := some (unreadableDocumentText document fault) }
  | read {fragments : List Fragment} {includes : Includes} {sessions : List SessionOutcome}
      (read : (Document.fragments plan.tree document plan.root).outcome = .ok fragments)
      (collected : Includes.collect plan.tree plan.includeDefaults fragments = .ok includes)
      (all : sessions.map (·.session) = Session.ofFragments fragments)
      (settled : ∀ session ∈ sessions, session.IsSettledBy plan.compiler includes) :
      Accounts plan document { document, sessions }

theorem snd_jobs (sessions : List Session) (includes : Includes) :
    (jobs sessions includes).map Prod.snd =
      (sessions.filter (·.isCompilable)).map (.ofSession · includes) := by
  have kept : sessions.filter (·.isCompilable) =
      (sessions.zipIdx.filter (·.1.isCompilable)).map Prod.fst := by
    conv_lhs => rw [← List.zipIdx_map_fst 0 sessions]
    rw [List.filter_map]
    rfl
  rw [kept, jobs, List.map_map, List.map_map]
  rfl

theorem submissions_verdicts (silent : plan.compiler.IsSilent) {works : List (Nat × Workspace)}
    {found : List (Nat × Verdict)}
    (verified : (verdicts plan.oneByOne document works).outcome = .ok found) :
    (verdicts plan.oneByOne document works).submissions = works.map Prod.snd := by
  induction works generalizing found with
  | nil => rfl
  | cons work rest ih =>
      obtain ⟨verdict, first, remaining⟩ := Attempt.bind_eq_ok.mp verified
      obtain ⟨others, later, _⟩ := Attempt.bind_eq_ok.mp remaining
      obtain ⟨_, answered, _⟩ := Attempt.bind_eq_ok.mp first
      have own : (do return (work.1, ← plan.compiler.verify work.2) :
          Attempt Breakdown (Nat × Verdict)).submissions = [work.2] := by
        rw [Attempt.submissions_bind answered, Compiler.submissions_verify silent]
        rfl
      have whole : (verdicts plan.oneByOne document (work :: rest)).submissions =
          [work.2] ++ ((verdicts plan.oneByOne document rest).submissions ++ []) := by
        rw [← own]
        exact (Attempt.submissions_bind first).trans
          (congrArg _ (Attempt.submissions_bind later))
      rw [whole, ih later]
      simp

/-- It is the document itself that cannot be read. -/
theorem name_of_unreadable {tree : Tree} {name root : Path} {fault : ReadFault}
    (unread : (Document.fragments tree document root).outcome = .error (.unreadable name fault)) :
    name = document := by
  rcases Attempt.bind_eq_error.mp unread with unread | ⟨text, read, failed⟩
  · rw [Attempt.outcome_ofExcept, Document.readLines] at unread
    split at unread <;> simp_all
  · have reads : Document.readLines tree document = .ok text := read
    obtain ⟨_, _, _, _, same⟩ := Document.exists_link_of_fragments_eq_error reads unread
    simp at same

theorem submissions_verifyDocument (silent : plan.compiler.IsSilent)
    (verified : (plan.verifyDocument plan.oneByOne document).outcome = .ok outcome) :
    (plan.verifyDocument plan.oneByOne document).submissions = plan.unitsOf document := by
  have settled : (Document.fragments plan.tree document plan.root).settled.outcome =
      (.ok (Document.fragments plan.tree document plan.root).outcome : Except Breakdown _) := rfl
  cases read : (Document.fragments plan.tree document plan.root).outcome with
  | error fault =>
      rw [verifyDocument, Attempt.submissions_bind settled, Attempt.submissions_settled,
        Document.submissions_fragments, unitsOf, read]
      cases fault <;> rfl
  | ok fragments =>
      obtain ⟨includes, found, collected, each, _⟩ := (verifyDocument_of_read read).mp verified
      have gathered : (Attempt.ofExcept ((Includes.collect plan.tree plan.includeDefaults
          fragments).mapError Breakdown.path)).outcome = .ok includes := by
        rw [Attempt.outcome_ofExcept, Except.mapError_eq_ok]
        exact collected
      simp only [verifyDocument, Attempt.submissions_bind settled, Attempt.submissions_settled,
        Document.submissions_fragments, read, Attempt.submissions_bind gathered,
        Attempt.submissions_bind each, submissions_verdicts silent each, snd_jobs]
      simp [unitsOf, read, collected]

theorem accounts_of_verifyDocument
    (verified : (plan.verifyDocument plan.oneByOne document).outcome = .ok outcome) :
    plan.Accounts document outcome := by
  rcases verifyDocument_eq_ok verified with
    ⟨name, fault, unread, rfl⟩ | ⟨fragments, includes, read, collected, _, all, settled⟩
  · obtain rfl := name_of_unreadable unread
    exact .unreadable unread
  · obtain ⟨_, found, _, _, rfl⟩ := (verifyDocument_of_read read).mp verified
    exact .read read collected all settled

/-- A run that comes to an end has dealt with all documents and submitted nothing besides. -/
theorem submissions_runBy {compiling : Compiling}
    (ended : (plan.runBy compiling).outcome = .ok result) :
    ∃ documents,
      (Discovery.documents plan.tree plan.settings.documents).outcome = .ok documents ∧
      List.Forall₂ (fun document outcome =>
        (plan.verifyDocument compiling document).outcome = .ok outcome)
        documents result.outcomes ∧
      (plan.runBy compiling).submissions =
        documents.flatMap fun document => (plan.verifyDocument compiling document).submissions := by
  obtain ⟨documents, discovered, rest⟩ := Attempt.bind_eq_ok.mp ended
  refine ⟨documents, Attempt.mapFault_eq_ok.mp discovered, ?_⟩
  rw [runBy, Attempt.submissions_bind discovered, Attempt.submissions_mapFault,
    Discovery.submissions_documents]
  by_cases empty : documents = []
  · subst empty
    obtain ⟨_, _, ⟨⟩⟩ := Attempt.bind_eq_ok.mp rest
    exact ⟨.nil, rfl⟩
  · rw [if_neg (by simpa using empty)] at rest ⊢
    obtain ⟨outcomes, each, remaining⟩ := Attempt.bind_eq_ok.mp rest
    obtain ⟨tree, written, ⟨⟩⟩ := Attempt.bind_eq_ok.mp remaining
    have verified := Attempt.mapFault_eq_ok.mp each
    refine ⟨Attempt.each_eq_ok.mp verified, ?_⟩
    rw [Attempt.submissions_bind each, Attempt.submissions_mapFault,
      Attempt.submissions_each verified, Attempt.submissions_bind written]
    simp

/-- A run that comes to an end has submitted the workspace of each session that can be compiled,
once and in order, and nothing else; and all sessions are told of in that order. -/
theorem run_submits_compilable :
    (∀ session : Session, session.isCompilable = true ↔
      session.NamesOneProject ∧ ∀ fragment ∈ session.fragments, fragment.problems = []) ∧
    (∀ (service : Service) bench, (service.compiler bench).IsSilent) ∧
    ∀ (plan : RunPlan) result, plan.settings.parallel = false → plan.compiler.IsSilent →
      plan.run.outcome = .ok result →
      ∃ documents,
        (Discovery.documents plan.tree plan.settings.documents).outcome = .ok documents ∧
        plan.run.submissions = documents.flatMap plan.unitsOf ∧
        List.Forall₂ plan.Accounts documents result.outcomes := by
  refine ⟨fun session => ?_, Service.isSilent_compiler, fun plan result sequential silent ended => ?_⟩
  · rw [Session.isCompilable_iff, Session.spansProjects_eq_false_iff]
  · have same : plan.run = plan.runBy plan.oneByOne := by
      rw [run, compiling, sequential]
      rfl
    rw [same] at ended ⊢
    obtain ⟨documents, discovered, verified, submitted⟩ := submissions_runBy ended
    refine ⟨documents, discovered, ?_, verified.imp fun _ _ => accounts_of_verifyDocument⟩
    rw [submitted]
    refine List.flatMap_congr fun document member => ?_
    obtain ⟨outcome, _, verifies⟩ := exists_of_mem_forall₂ verified member
    exact submissions_verifyDocument silent verifies

/-! ## Two sessions, one with a problem -/

def mixedLines : List String :=
  ["\x60\x60\x60 python --session b stray", "\x60\x60\x60",
    "\x60\x60\x60 python --session a", "\x60\x60\x60"]

/-- A plan for a root directory that holds one document, with these two blocks. -/
def ofMixedDocument : RunPlan :=
  { ofEmptyDocument with
    tree := ⟨[], [(["a"], .file (Utf8.encodeText (joinLines mixedLines ++ "\n")))]⟩ }

def mixedFragments : List Fragment := [
  { document := .ofNames .root ["a"], line := 0, language := "python", text := "",
    session := some "b", problems := [{ message := "Unrecognized argument: stray" }] },
  { document := .ofNames .root ["a"], line := 2, language := "python", text := "",
    session := some "a" }]

theorem documents_single (bytes : Utf8.Bytes) :
    (Discovery.documents ⟨[], [(["a"], .file bytes)]⟩ ofEmptyDocument.settings.documents).outcome =
      .ok [.ofNames .root ["a"]] := by cbv

theorem fragments_mixed :
    (Document.fragments ofMixedDocument.tree (.ofNames .root ["a"]) ofMixedDocument.root).outcome =
      .ok mixedFragments := by
  have read : Document.readLines ofMixedDocument.tree (.ofNames .root ["a"]) = .ok mixedLines :=
    Document.readLines_rootChild (by decide) (by decide) (by simp [mixedLines])
      (by simp [mixedLines, IsLine, isLineEnd]) (by simp [ofMixedDocument, Tree.lookup])
  have annotated : Block.annotated (Block.ofLines mixedLines) =
      [⟨0, ⟨.backtick, 3, "python --session b stray"⟩, []⟩,
        ⟨2, ⟨.backtick, 3, "python --session a"⟩, []⟩] := by decide +kernel
  have stray : FenceInfo.ofInfo "python --session b stray" =
      ⟨"python", ⟨[(.session, "b")]⟩, [.strayWord "stray"]⟩ := by decide +kernel
  refine Document.fragments_eq_ok.mpr ⟨mixedLines, read, ?_⟩
  rw [annotated]
  refine .cons ?_ (.cons ?_ .nil)
  · rw [Fragment.link, stray]
    rfl
  · rw [Fragment.link, Document.ofInfo_session]
    rfl

theorem jobs_mixed : jobs (Session.ofFragments mixedFragments) (.ofInclusions []) =
    [(1, { session := some "a", buffers := [⟨{}, "", true⟩] })] := by
  decide +kernel

theorem collected_mixed :
    Includes.collect ofMixedDocument.tree ofMixedDocument.includeDefaults mixedFragments =
      .ok (.ofInclusions []) := rfl

theorem unitsOf_mixed : ofMixedDocument.unitsOf (.ofNames .root ["a"]) =
    [{ session := some "a", buffers := [⟨{}, "", true⟩] }] := by
  have found := congrArg (List.map Prod.snd) jobs_mixed
  rw [snd_jobs] at found
  simpa [unitsOf, fragments_mixed, collected_mixed] using found

theorem exists_run_mixed : ∃ result, ofMixedDocument.run.outcome = .ok result := by
  refine (@exists_runBy_iff ofMixedDocument _ _ (documents_single _) rfl).mpr ?_
  intro document member
  obtain rfl := List.mem_singleton.mp member
  have verified : (verdicts ofMixedDocument.compiling (.ofNames .root ["a"])
      (jobs (Session.ofFragments mixedFragments) (.ofInclusions []))).outcome =
        .ok [(1, { kind := .ok })] := by
    rw [jobs_mixed]
    rfl
  exact ⟨_, (verifyDocument_of_read fragments_mixed).mpr ⟨_, _, collected_mixed, verified, rfl⟩⟩

/-- The session with a problem is passed over. -/
theorem run_submits_compilable_mixed :
    ∃ result, ofMixedDocument.run.outcome = .ok result ∧
      ofMixedDocument.run.submissions =
        [{ session := some "a", buffers := [⟨{}, "", true⟩] }] := by
  obtain ⟨result, ended⟩ := exists_run_mixed
  obtain ⟨documents, discovered, submitted, _⟩ :=
    run_submits_compilable.2.2 ofMixedDocument result rfl (fun _ => rfl) ended
  cases discovered.symm.trans (documents_single _)
  refine ⟨result, ended, ?_⟩
  rw [submitted]
  simp [unitsOf_mixed]

end RunPlan

end DocSamples
