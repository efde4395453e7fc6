import DocSamples.Compiler.Service
import DocSamples.Proofs.Settings.Override

namespace DocSamples

/-! # Accepted settings can be run

Settings come from a file or from arguments, and overriding changes them.  Each of these asks
for whatever it may have changed, so settings that are accepted leave time for a compile, let at
least one compile run at a time, and name a compiler that there is.
-/

namespace Settings

variable {settings : Settings} {overrides : Overrides} {tree : Tree} {path : Path}

/-- Settings with which a compile can be started. -/
structure IsRunnable (settings : Settings) : Prop where
  timeout : 1 ≤ settings.compiler.timeout
  concurrency : 1 ≤ settings.maxConcurrency
  command : settings.compiler.HasCommand

/-! ## From a file -/

theorem maxConcurrency_of_ofEntries {entries : Fields.Entries}
    (read : Settings.ofEntries entries = .valid settings) : 1 ≤ settings.maxConcurrency := by
  obtain ⟨_, given⟩ := fields_of_ofEntries read
  refine Fields.holds_of_field (fun count => 1 ≤ count) (by decide) ?_ given
  intro value item checked
  cases number : Fields.integer value with
  | valid count =>
      rw [number, Fields.andCheck] at checked
      exact (Fields.atLeastOne_eq_valid.mp checked).2 ▸ (Fields.atLeastOne_eq_valid.mp checked).1
  | invalid complaints => simp [number, Fields.andCheck] at checked

theorem IsSaid.concurrency (said : IsSaid tree path settings) : 1 ≤ settings.maxConcurrency := by
  obtain ⟨_, _, _, _, before, read, placed⟩ := said.read
  obtain ⟨_, rfl⟩ := exists_root_of_placeRoot placed
  obtain ⟨entries, checked⟩ := exists_entries_of_ofValue read
  have counted : 1 ≤ before.maxConcurrency := maxConcurrency_of_ofEntries checked
  exact counted

theorem checkCommand_eq_ok {compiler : CompilerSettings} :
    checkCommand compiler = .ok () ↔ compiler.HasCommand := by
  rw [checkCommand_eq]
  split <;> simp_all

theorem load_eq_ok : load tree path = .ok settings ↔
    IsSaid tree path settings ∧ settings.compiler.HasCommand := by
  constructor
  · intro loaded
    rw [load] at loaded
    obtain ⟨source, opened, loaded⟩ := Except.bind_eq_ok.mp loaded
    obtain ⟨value, parsed, loaded⟩ := Except.bind_eq_ok.mp loaded
    obtain ⟨before, valid, loaded⟩ := Except.bind_eq_ok.mp loaded
    obtain ⟨held, placed, loaded⟩ := Except.bind_eq_ok.mp loaded
    obtain ⟨_, checked, same⟩ := Except.bind_eq_ok.mp loaded
    cases same
    have said : IsSaid tree path settings :=
      ⟨source, value, opened, Except.mapError_eq_ok.mp parsed, before, valid, placed⟩
    exact ⟨said, checkCommand_eq_ok.mp checked⟩
  · rintro ⟨said, obeys⟩
    rw [load_of_isSaid said, if_pos obeys]

theorem isRunnable_of_load (loaded : load tree path = .ok settings) : settings.IsRunnable := by
  obtain ⟨said, obeys⟩ := load_eq_ok.mp loaded
  exact ⟨said.timeout, said.concurrency, obeys⟩

/-! ## From arguments -/

theorem compilerOf_eq_ok {kind : CompilerKind} {command : List String} {timeout : Int}
    {compiler : CompilerSettings} :
    compilerOf kind command timeout = .ok compiler ↔
      0 < timeout ∧ compiler = { kind, command, timeout } := by
  by_cases positive : 0 < timeout
  · simp [compilerOf_eq positive, positive, eq_comm]
  · simp [compilerOf, Fields.positive, positive, Checked.refuse, Checked.inside]

theorem isRunnable_of_ofArguments {arguments : Arguments}
    (made : ofArguments arguments = .ok settings) : settings.IsRunnable := by
  rw [ofArguments] at made
  obtain ⟨kind, _, made⟩ := Except.bind_eq_ok.mp made
  obtain ⟨compiler, built, made⟩ := Except.bind_eq_ok.mp made
  obtain ⟨_, checked, made⟩ := Except.bind_eq_ok.mp made
  obtain ⟨positive, rfl⟩ := compilerOf_eq_ok.mp built
  dsimp only at made
  split at made
  · simp at made
  · rename_i concurrency counted
    cases made
    have atLeast := Fields.atLeastOne_eq_valid.mp (Checked.inside_eq_valid.mp counted)
    exact ⟨positive, atLeast.2 ▸ atLeast.1, checkCommand_eq_ok.mp checked⟩

/-! ## Overridden -/

theorem IsRunnable.apply (runnable : settings.IsRunnable)
    (succeeds : (overrides.apply settings).2 = .ok ()) :
    (overrides.apply settings).1.IsRunnable := by
  have ends := overrides.ends_apply settings
  generalize overrides.apply settings = result at ends succeeds
  cases ends with
  | untouched still =>
      have kept : (overrides.onto settings).compiler = settings.compiler :=
        Overrides.onto_compiler still
      exact ⟨kept ▸ runnable.timeout, runnable.concurrency, kept ▸ runnable.command⟩
  | changed changes acceptable obeys =>
      exact ⟨acceptable.positive, runnable.concurrency, obeys⟩
  | unknown changes named missing => simp at succeeds
  | refused changes known short => simp at succeeds
  | commandless changes acceptable breaks => simp at succeeds

/-- Settings that come from a file or from arguments, however often they have been overridden
since. -/
inductive IsAccepted (tree : Tree) : Settings → Prop
  | loaded {path : Path} {settings : Settings} (loads : load tree path = .ok settings) :
      IsAccepted tree settings
  | made {arguments : Arguments} {settings : Settings}
      (makes : ofArguments arguments = .ok settings) : IsAccepted tree settings
  | overridden {overrides : Overrides} {settings : Settings} (before : IsAccepted tree settings)
      (succeeds : (overrides.apply settings).2 = .ok ()) :
      IsAccepted tree (overrides.apply settings).1

theorem IsAccepted.isRunnable (accepted : IsAccepted tree settings) : settings.IsRunnable := by
  induction accepted with
  | loaded loads => exact isRunnable_of_load loads
  | made makes => exact isRunnable_of_ofArguments makes
  | overridden before succeeds ih => exact ih.apply succeeds

end Settings

/-! ## The compiler of a run -/

namespace Registry

variable {settings : Settings}

theorem service_standard (settings : Settings) :
    standard.service settings =
      (Factory.standard settings.compiler.kind settings).mapError .compiler := by
  cases kind : settings.compiler.kind <;> simp [service, kind, standard] <;> rfl

/-- There is a compiler exactly for settings that obey the rule about commands. -/
theorem exists_service_iff (settings : Settings) :
    (∃ service, standard.service settings = .ok service) ↔ settings.compiler.HasCommand := by
  rw [service_standard, CompilerSettings.HasCommand]
  cases kind : settings.compiler.kind with
  | python => simp [Factory.standard, Except.mapError]
  | command =>
      by_cases given : settings.compiler.command = [] <;>
        simp [Factory.standard, Command.of, given, Except.map, Except.mapError]

theorem name_of_service {service : Service} (made : standard.service settings = .ok service) :
    service.name = settings.compiler.kind.name := by
  rw [service_standard, Except.mapError_eq_ok] at made
  cases kind : settings.compiler.kind with
  | python =>
      rw [kind] at made
      cases made
      rfl
  | command =>
      rw [kind, Factory.standard] at made
      cases built : Command.of settings.compiler.command settings.compiler.timeout
          settings.documents.includeSuffix with
      | error fault => simp [built, Except.map] at made
      | ok command =>
          rw [built] at made
          cases made
          rfl

end Registry

namespace VerifyRequest

open Settings (IsAccepted IsSaid commandBytes commandSettings isSaid_treeOfFile placeRoot
  treeOfFile)

variable {request : VerifyRequest} {tree : Tree} {settings : Settings}

theorem isAccepted_of_settings (accepted : request.settings tree = .ok settings) :
    IsAccepted tree settings := by
  rw [VerifyRequest.settings] at accepted
  split at accepted
  · obtain ⟨held, loads, accepted⟩ := Except.bind_eq_ok.mp accepted
    obtain ⟨words, _, accepted⟩ := Except.bind_eq_ok.mp accepted
    have before : IsAccepted tree held := .loaded (Except.mapError_eq_ok.mp loads)
    have reached : ((request.overrides words).apply held).2 = .ok () ∧
        ((request.overrides words).apply held).1 = settings := by
      generalize (request.overrides words).apply held = result at accepted
      obtain ⟨after, outcome⟩ := result
      cases outcome with
      | error fault => simp [Except.mapError, Except.map] at accepted
      | ok => simpa [Except.mapError, Except.map] using accepted
    rw [← reached.2]
    exact .overridden before reached.1
  · obtain ⟨words, _, accepted⟩ := Except.bind_eq_ok.mp accepted
    exact .made (Except.mapError_eq_ok.mp accepted)

/-- A request that gives the command of the file anew. -/
def renewingRequest : VerifyRequest where
  config := some "/c"
  command := some "gcc -c"
  timeout := some 1

end VerifyRequest

end DocSamples
