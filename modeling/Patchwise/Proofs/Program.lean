import Patchwise.Program
import Patchwise.Proofs.Project
import Patchwise.Proofs.Report

/-!
# What keeps the program from running

The program looks at its configuration, at the manifest and at the repository before it touches
anything. What stands in its way is told, with an exit status that says so; and where nothing does
the program ends well, whatever becomes of the attempts.

## Main definitions

- `Program.EnsuresIn` — what a session ensures in an environment that stays as it is
- `Program.Obstructed` — an obstacle, and the calls after which it is met
- `Program.Cleared` — the calls after which there is none
- `Program.opening`, `Program.closing` — the preparation up to there, and the rest of it
- `Program.Ends` — how the program may end

## Main results

- `Program.fails_untouched_or_ends_well` — the program ends so

## Design notes

The token of a CI service is asked for twice, once while the configuration is checked and once to
be used. That the second time cannot fail where the first did not rests on the environment.
-/

namespace Patchwise

/-! ## What a valid configuration is good for -/

namespace Settings

variable {s : Settings} {environment : String → Option String}

/-- The package manager of a valid configuration is one that can be driven, if there is any. -/
theorem exists_packageTool (h : s.validate environment = .ok ()) :
    ∃ configured, s.packageTool = .ok configured := by
  obtain ⟨_, htext, -⟩ := Except.bind_eq_ok_iff.1 h
  obtain ⟨_, -, hrest⟩ := Except.bind_eq_ok_iff.1 htext
  obtain ⟨configured, hconfigured, -⟩ := Except.bind_eq_ok_iff.1 hrest
  exact ⟨configured, hconfigured⟩

/-- If a valid configuration asks for a pipeline, the environment has a token for it. -/
theorem exists_token (h : s.validate environment = .ok ()) (hmode : s.verify.mode = .pipeline) :
    ∃ token, s.token (environment s.ci.tokenVariable) = .ok token := by
  obtain ⟨_, -, hrest⟩ := Except.bind_eq_ok_iff.1 h
  rw [hmode] at hrest
  obtain ⟨token, htoken, -⟩ := Except.bind_eq_ok_iff.1 hrest
  exact ⟨token, htoken⟩

end Settings

namespace Program

open Session

/-! ## In an environment -/

/-- Whether a call is about more than the environment and what the user is told. -/
def isNotable : Host.Call → Bool
  | .environment _ | .report _ => false
  | _ => true

/-- The variables of an environment, by name. -/
abbrev Environment : Type := String → Option String

/-- Whenever a machine is asked for a variable, it answers from an environment. -/
def Holds {σ : Type} (environment : Environment) (serve : Collaborator Host.interface σ) : Prop :=
  ∀ name s, (serve (.environment name) s).1 = environment name

/-- Whatever a machine does in an environment, the session's value and its journal satisfy
`post`. -/
def EnsuresIn {α : Type} (environment : Environment) (session : Session Host.interface α)
    (post : α → List (Event Host.interface) → Prop) : Prop :=
  ∀ ⦃σ : Type⦄ (serve : Collaborator Host.interface σ) (s : σ), Holds environment serve →
    post (session.exec serve s).1 (session.journal isNotable serve s)

section Rules

variable {environment : Environment} {α β : Type}
  {post post' : α → List (Event Host.interface) → Prop}
  {goal : β → List (Event Host.interface) → Prop}

theorem EnsuresIn.of_ensures {session : Session Host.interface α}
    (h : session.Ensures isNotable post) : EnsuresIn environment session post := by
  intro σ serve s _
  exact h serve s

theorem EnsuresIn.mono {session : Session Host.interface α} (h : EnsuresIn environment session post)
    (hpost : ∀ value events, post value events → post' value events) :
    EnsuresIn environment session post' := by
  intro σ serve s hholds
  exact hpost _ _ (h serve s hholds)

theorem EnsuresIn.done {value : α} (h : post value []) :
    EnsuresIn environment (.done value) post :=
  .of_ensures (.done h)

theorem EnsuresIn.bind {session : Session Host.interface α} {rest : α → Session Host.interface β}
    (h : EnsuresIn environment session post)
    (hrest : ∀ value events, post value events →
      EnsuresIn environment (rest value) fun last more => goal last (events ++ more)) :
    EnsuresIn environment (session.bind rest) goal := by
  intro σ serve s hholds
  rw [exec_bind, journal_bind]
  exact hrest _ _ (h serve s hholds) serve (session.exec serve s).2 hholds

/-- A variable has the value that it has in the environment. -/
theorem EnsuresIn.ask_environment {name : String}
    {next : Option String → Session Host.interface α}
    (h : EnsuresIn environment (next (environment name)) post) :
    EnsuresIn environment (.call (Host.Call.environment name) next) post := by
  intro σ serve s hholds
  have hnext := h serve (serve (.environment name) s).2 hholds
  have hvalue : (serve (.environment name) s).1 = environment name := hholds name s
  simpa [exec, journal, transcript, isNotable, hvalue] using hnext

/-- A step that finds something goes on with it, and one that fails is the end. -/
theorem EnsuresIn.andThen {step : Step α} {rest : α → Step β}
    {found : Except Obstacle α → List (Event Host.interface) → Prop}
    {goal : Except Obstacle β → List (Event Host.interface) → Prop}
    (h : EnsuresIn environment step found)
    (herror : ∀ obstacle events, found (.error obstacle) events → goal (.error obstacle) events)
    (hrest : ∀ value events, found (.ok value) events →
      EnsuresIn environment (rest value) fun last more => goal last (events ++ more)) :
    EnsuresIn environment (step.andThen rest) goal := by
  refine .bind h fun answer events hfound => ?_
  cases answer with
  | ok value => exact hrest value events hfound
  | error obstacle =>
    refine .done ?_
    rw [List.append_nil]
    exact herror obstacle events hfound

@[simp]
theorem Step.ofExcept_ok_andThen {ε : Type} (cause : ε → Obstacle) (a : α) (rest : α → Step β) :
    (Step.ofExcept cause (.ok a)).andThen rest = rest a :=
  rfl

end Rules

/-! ## Obstacles -/

/-- The command that looks for a repository. -/
def revParse (c : CommandLine) : Command :=
  ⟨Repository.program, ["rev-parse", "--is-inside-work-tree"], c.directory⟩

/-- The obstacle that a command line meets in an environment, and the calls that are made up to
there. -/
inductive Obstructed (c : CommandLine) (environment : Environment) :
    Obstacle → List (Event Host.interface) → Prop
  /-- The configuration cannot be loaded. -/
  | notConfigured {content : File.Content} {cause : InputError}
      (h : Settings.ofFile c.settingsPath content = .error cause) :
      Obstructed c environment (.input cause) [⟨.contentOf c.settingsPath, content⟩]
  /-- The configuration, as the command line amends it, cannot be worked with. -/
  | notValid {content : File.Content} {settings : Settings} {cause : InputError}
      (hsettings : Settings.ofFile c.settingsPath content = .ok settings)
      (h : (c.amend settings).validate environment = .error cause) :
      Obstructed c environment (.input cause) [⟨.contentOf c.settingsPath, content⟩]
  /-- The manifest cannot be loaded. -/
  | noManifest {content found : File.Content} {settings : Settings} {cause : InputError}
      (hsettings : Settings.ofFile c.settingsPath content = .ok settings)
      (hvalid : (c.amend settings).validate environment = .ok ())
      (h : Manifest.ofFile ((c.amend settings).manifestPath c.directory) found = .error cause) :
      Obstructed c environment (.input cause)
        [⟨.contentOf c.settingsPath, content⟩,
          ⟨.contentOf ((c.amend settings).manifestPath c.directory), found⟩]
  /-- The repository is not found, or cannot be looked for. -/
  | noRepository {content found : File.Content} {settings : Settings} {manifest : Manifest}
      {cause : ToolError} {events : List (Event Host.interface)}
      (hsettings : Settings.ofFile c.settingsPath content = .ok settings)
      (hvalid : (c.amend settings).validate environment = .ok ())
      (hmanifest :
        Manifest.ofFile ((c.amend settings).manifestPath c.directory) found = .ok manifest)
      (h : (revParse c).Performed (.error cause) events) :
      Obstructed c environment (.repository cause)
        (⟨.contentOf c.settingsPath, content⟩ ::
          ⟨.contentOf ((c.amend settings).manifestPath c.directory), found⟩ :: events)

/-- The configuration and the manifest that a command line finds in an environment if no obstacle
is met, and the calls after which that is certain. -/
inductive Cleared (c : CommandLine) (environment : Environment) :
    Settings → Manifest → List (Event Host.interface) → Prop
  | intro {content found : File.Content} {settings : Settings} {manifest : Manifest}
      {events : List (Event Host.interface)}
      (hsettings : Settings.ofFile c.settingsPath content = .ok settings)
      (hvalid : (c.amend settings).validate environment = .ok ())
      (hmanifest :
        Manifest.ofFile ((c.amend settings).manifestPath c.directory) found = .ok manifest)
      (h : (revParse c).Performed (.ok ()) events) :
      Cleared c environment (c.amend settings) manifest
        (⟨.contentOf c.settingsPath, content⟩ ::
          ⟨.contentOf ((c.amend settings).manifestPath c.directory), found⟩ :: events)

variable {c : CommandLine} {environment : Environment} {obstacle : Obstacle} {s : Settings}
  {m : Manifest} {events front rest : List (Event Host.interface)}

theorem Obstructed.exitCode_eq (h : Obstructed c environment obstacle events) :
    obstacle.exitCode = 1 := by
  cases h <;> rfl

/-- What is found of the configuration is told by the first call. -/
theorem eq_of_front_eq {content content' : File.Content} {s s' : Settings}
    {events events' : List (Event Host.interface)}
    (h : ⟨.contentOf c.settingsPath, content⟩ :: events =
      (⟨.contentOf c.settingsPath, content'⟩ :: events' : List (Event Host.interface)))
    (hs : Settings.ofFile c.settingsPath content = .ok s)
    (hs' : Settings.ofFile c.settingsPath content' = .ok s') : s = s' ∧ events = events' := by
  injection h with hcontent hevents
  cases hcontent
  exact ⟨Except.ok.inj (hs.symm.trans hs'), hevents⟩

/-- The calls that are made up to an obstacle tell which it is. -/
theorem Obstructed.unique {obstacle' : Obstacle} (h : Obstructed c environment obstacle events)
    (h' : Obstructed c environment obstacle' events) : obstacle = obstacle' := by
  cases h with
  | notConfigured h =>
    cases h' with
    | notConfigured h' => exact congrArg _ (Except.error.inj (h.symm.trans h'))
    | notValid hsettings' h' => cases h.symm.trans hsettings'
  | notValid hsettings h =>
    cases h' with
    | notConfigured h' => cases h'.symm.trans hsettings
    | notValid hsettings' h' =>
      obtain rfl := Except.ok.inj (hsettings.symm.trans hsettings')
      exact congrArg _ (Except.error.inj (h.symm.trans h'))
  | noManifest hsettings hvalid h =>
    generalize hevents : [_, _] = events at h'
    cases h' with
    | notConfigured => cases hevents
    | notValid => cases hevents
    | noManifest hsettings' hvalid' h' =>
      obtain ⟨rfl, hevents⟩ := eq_of_front_eq hevents hsettings hsettings'
      cases hevents
      exact congrArg _ (Except.error.inj (h.symm.trans h'))
    | noRepository hsettings' hvalid' hmanifest' h' =>
      obtain ⟨rfl, hevents⟩ := eq_of_front_eq hevents hsettings hsettings'
      cases hevents
      cases h.symm.trans hmanifest'
  | noRepository hsettings hvalid hmanifest h =>
    generalize hevents : _ :: _ :: _ = events at h'
    cases h' with
    | notConfigured => cases hevents
    | notValid => cases hevents
    | noManifest hsettings' hvalid' h' =>
      obtain ⟨rfl, hevents⟩ := eq_of_front_eq hevents hsettings hsettings'
      cases hevents
      cases hmanifest.symm.trans h'
    | noRepository hsettings' hvalid' hmanifest' h' =>
      obtain ⟨rfl, hevents⟩ := eq_of_front_eq hevents hsettings hsettings'
      cases hevents
      exact congrArg _ (Except.error.inj (h.unique h'))

theorem Cleared.not_obstructed (h : Cleared c environment s m front) :
    ¬ Obstructed c environment obstacle (front ++ rest) := by
  intro hobstructed
  cases h with
  | intro hsettings hvalid hmanifest hperformed =>
    generalize hevents : _ ++ rest = events at hobstructed
    cases hobstructed with
    | notConfigured h => cases hevents
    | notValid hsettings' h => cases hevents
    | noManifest hsettings' hvalid' h =>
      obtain ⟨rfl, hevents⟩ := eq_of_front_eq hevents hsettings hsettings'
      injection hevents with hfound hevents
      cases hfound
      cases hmanifest.symm.trans h
    | noRepository hsettings' hvalid' hmanifest' h =>
      obtain ⟨rfl, hevents⟩ := eq_of_front_eq hevents hsettings hsettings'
      injection hevents with hfound hevents
      subst hevents
      exact hperformed.not_error h

theorem load_ensures {α : Type} (path : String) (read : File.Content → Except InputError α) :
    EnsuresIn environment (load path read) fun answer events =>
      ∃ content, events = [⟨.contentOf path, content⟩] ∧
        answer = (read content).mapError .input :=
  .of_ensures (.call rfl fun content => .done ⟨content, rfl, rfl⟩)

theorem settings_ensures (c : CommandLine) :
    EnsuresIn environment (settings c) fun answer events =>
      ∃ content, events = [⟨.contentOf c.settingsPath, content⟩] ∧
        match answer with
        | .ok s => ∃ found, s = c.amend found ∧ Settings.ofFile c.settingsPath content = .ok found
        | .error obstacle => Obstructed c environment obstacle events := by
  refine .andThen (load_ensures c.settingsPath _) ?_ ?_
  · rintro obstacle events ⟨content, rfl, h⟩
    obtain ⟨cause, hcause, rfl⟩ := Except.exists_of_mapError h.symm
    exact ⟨content, rfl, .notConfigured hcause⟩
  · rintro found events ⟨content, rfl, h⟩
    exact .done ⟨content, rfl, found, rfl, Except.eq_ok_of_mapError h.symm⟩

theorem token_ensures (s : Settings) :
    EnsuresIn environment (token s) fun answer events =>
      events = [] ∧ answer = (s.token (environment s.ci.tokenVariable)).mapError .input :=
  .ask_environment (.done ⟨rfl, rfl⟩)

theorem check_ensures (s : Settings) :
    EnsuresIn environment (check s) fun answer events =>
      events = [] ∧ answer = (s.validate environment).mapError .input := by
  unfold check Settings.validate
  cases s.validateText with
  | error cause => exact EnsuresIn.done ⟨rfl, rfl⟩
  | ok =>
    cases s.verify.mode with
    | testCommand => exact EnsuresIn.done ⟨rfl, rfl⟩
    | pipeline =>
      rw [Step.ofExcept_ok_andThen]
      refine .andThen (token_ensures s) ?_ ?_
      · rintro obstacle events ⟨rfl, h⟩
        obtain ⟨cause, hcause, rfl⟩ := Except.exists_of_mapError h.symm
        exact ⟨rfl, by rw [hcause]; rfl⟩
      · rintro token events ⟨rfl, h⟩
        have htoken := Except.eq_ok_of_mapError h.symm
        refine .done ⟨rfl, ?_⟩
        rw [htoken]
        rfl

theorem tellMuch_ensures (console : Console) (lines : List String) :
    EnsuresIn environment (tellMuch console lines) fun answer events =>
      events = [] ∧ answer = .ok () := by
  apply EnsuresIn.of_ensures
  unfold tellMuch
  split
  · refine Ensures.bind (Console.reportAll_avoids (fun _ => rfl) lines) fun _ events hevents => ?_
    subst hevents
    exact .done ⟨rfl, rfl⟩
  · exact .done ⟨rfl, rfl⟩

theorem ensureRepository_ensures (c : CommandLine) (console : Console) :
    EnsuresIn environment (ensureRepository { directory := c.directory, console })
      fun answer events => ∃ performed, (revParse c).Performed performed events ∧
        answer = performed.mapError .repository := by
  apply EnsuresIn.of_ensures
  refine Ensures.bind (console.perform_ensures (fun _ => rfl) (fun _ => rfl) (revParse c))
    fun performed events hperformed => .done ?_
  rw [List.append_nil]
  exact ⟨performed, hperformed, rfl⟩

theorem detectAmong_ensures (directory : String) (lockfiles : List (String × PackageTool)) :
    (PackageTool.detectAmong directory lockfiles).Ensures isNotable fun _ events =>
      ∀ event ∈ events, event.request.isPrint = false := by
  induction lockfiles with
  | nil => exact .done (by simp)
  | cons lockfile rest ih =>
    obtain ⟨file, tool⟩ := lockfile
    refine .call rfl fun found => ?_
    cases found with
    | true => exact .done (by simp [Host.Call.isPrint])
    | false => exact ih.mono fun _ events hevents => List.forall_mem_cons.2 ⟨rfl, hevents⟩

theorem packageTool_ensures (c : CommandLine) (h : s.validate environment = .ok ()) :
    EnsuresIn environment (packageTool c s) fun answer events =>
      (∃ tool, answer = .ok tool) ∧ ∀ event ∈ events, event.request.isPrint = false := by
  obtain ⟨configured, hconfigured⟩ := Settings.exists_packageTool h
  rw [packageTool, hconfigured, Step.ofExcept_ok_andThen]
  cases configured with
  | some tool => exact EnsuresIn.done ⟨⟨tool, rfl⟩, by simp⟩
  | none =>
    refine .bind (.of_ensures (detectAmong_ensures c.directory PackageTool.lockfiles))
      fun tool events hevents => .done ?_
    rw [List.append_nil]
    exact ⟨⟨tool, rfl⟩, hevents⟩

/-- Much is told, and the deadline that is to be told is too long. -/
def TellsTooMuch (c : CommandLine) (s : Settings) : Prop :=
  c.verbose = true ∧ s.verify.mode = .pipeline ∧ s.polling.deadline = none

theorem tellTools_ensures (terminal : Bool) (c : CommandLine) (s : Settings) (tool : PackageTool) :
    EnsuresIn environment (tellTools (console terminal c) s tool) fun answer events =>
      events = [] ∧ (answer = .ok () ∧ ¬ TellsTooMuch c s ∨
        answer = .error .overflow ∧ TellsTooMuch c s) := by
  refine .andThen (tellMuch_ensures _ _) ?_ ?_
  · rintro obstacle events ⟨-, h⟩
    cases h
  · rintro _ events ⟨rfl, -⟩
    split
    next hverbose =>
      unfold verifyLine
      cases hmode : s.verify.mode with
      | testCommand =>
        have hfine : ¬ TellsTooMuch c s := by simp [TellsTooMuch, hmode]
        exact (tellMuch_ensures _ _).mono fun _ _ h => ⟨h.1, .inl ⟨h.2, hfine⟩⟩
      | pipeline =>
        cases hdeadline : s.polling.deadline with
        | some deadline =>
          have hfine : ¬ TellsTooMuch c s := by simp [TellsTooMuch, hdeadline]
          exact (tellMuch_ensures _ _).mono fun _ _ h => ⟨h.1, .inl ⟨h.2, hfine⟩⟩
        | none => exact EnsuresIn.done ⟨rfl, .inr ⟨rfl, hverbose, hmode, hdeadline⟩⟩
    next hverbose => exact .done ⟨rfl, .inl ⟨rfl, fun h => hverbose h.1⟩⟩

theorem verifier_ensures (h : s.validate environment = .ok ()) :
    EnsuresIn environment (verifier s) fun answer events =>
      events = [] ∧ ∃ verifier, answer = .ok verifier := by
  unfold verifier
  cases hmode : s.verify.mode with
  | testCommand => exact .done ⟨rfl, _, rfl⟩
  | pipeline =>
    obtain ⟨value, hvalue⟩ := Settings.exists_token h hmode
    refine .andThen (token_ensures s) ?_ ?_
    · rintro obstacle events ⟨-, herror⟩
      rw [hvalue] at herror
      cases herror
    · rintro token events ⟨rfl, -⟩
      exact .done ⟨rfl, _, rfl⟩

/-! ## The preparation -/

/-- The preparation up to where no obstacle is left. -/
def opening (terminal : Bool) (c : CommandLine) : Step (Settings × Manifest) :=
  (settings c).andThen fun s =>
    (check s).andThen fun _ =>
      (tellMuch (console terminal c) (banner c s)).andThen fun _ =>
        (manifest c s).andThen fun m =>
          (ensureRepository { directory := c.directory, console := console terminal c }).andThen
            fun _ => .done (.ok (s, m))

/-- The rest of the preparation. -/
def closing (terminal : Bool) (c : CommandLine) (s : Settings) (m : Manifest) : Step Prepared :=
  (packageTool c s).andThen fun tool =>
    (tellTools (console terminal c) s tool).andThen fun _ =>
      (verifier s).andThen fun verifier =>
        .done (.ok { settings := s, manifest := m,
                     project := { directory := c.directory, tool, verifier,
                                  console := console terminal c } })

theorem Step.andThen_assoc {α β γ : Type} (step : Step α) (f : α → Step β) (g : β → Step γ) :
    (step.andThen f).andThen g = step.andThen fun a => (f a).andThen g := by
  unfold Step.andThen
  rw [bind_assoc]
  congr 1
  funext answer
  cases answer <;> rfl

theorem prepare_eq (terminal : Bool) (c : CommandLine) :
    prepare terminal c =
      (opening terminal c).andThen fun found => closing terminal c found.1 found.2 := by
  simp only [opening, Step.andThen_assoc]
  rfl

theorem opening_ensures (terminal : Bool) (c : CommandLine) :
    EnsuresIn environment (opening terminal c) fun answer events =>
      match answer with
      | .ok (s, m) => Cleared c environment s m events
      | .error obstacle => Obstructed c environment obstacle events := by
  refine .andThen (settings_ensures c) ?_ ?_
  · rintro obstacle events ⟨content, rfl, hsettings⟩
    exact hsettings
  · rintro _ events ⟨content, rfl, found, rfl, hsettings⟩
    refine .andThen (check_ensures _) ?_ ?_
    · rintro obstacle events ⟨rfl, h⟩
      obtain ⟨cause, hcause, rfl⟩ := Except.exists_of_mapError h.symm
      exact .notValid hsettings hcause
    · rintro _ events ⟨rfl, h⟩
      have hvalid := Except.eq_ok_of_mapError h.symm
      refine .andThen (tellMuch_ensures _ _) ?_ ?_
      · rintro obstacle events ⟨-, h⟩
        cases h
      · rintro _ events ⟨rfl, -⟩
        refine .andThen (load_ensures _ _) ?_ ?_
        · rintro obstacle events ⟨content', rfl, h⟩
          obtain ⟨cause, hcause, rfl⟩ := Except.exists_of_mapError h.symm
          exact .noManifest hsettings hvalid hcause
        · rintro m events ⟨content', rfl, h⟩
          have hmanifest := Except.eq_ok_of_mapError h.symm
          refine .andThen (ensureRepository_ensures c _) ?_ ?_
          · rintro obstacle events ⟨performed, hperformed, h⟩
            obtain ⟨cause, rfl, rfl⟩ := Except.exists_of_mapError h.symm
            exact .noRepository hsettings hvalid hmanifest hperformed
          · rintro _ events ⟨performed, hperformed, h⟩
            obtain rfl := Except.eq_ok_of_mapError h.symm
            refine .done ?_
            rw [List.append_nil]
            exact .intro hsettings hvalid hmanifest hperformed

/-- Once no obstacle is left, nothing but the telling of a deadline can fail. -/
theorem closing_ensures (terminal : Bool) (c : CommandLine) (m : Manifest)
    (hvalid : s.validate environment = .ok ()) :
    EnsuresIn environment (closing terminal c s m) fun answer events =>
      (∀ event ∈ events, event.request.isPrint = false) ∧
        ((∃ p, answer = .ok p ∧ p.settings = s ∧ p.manifest = m ∧ ¬ TellsTooMuch c s) ∨
          answer = .error .overflow ∧ TellsTooMuch c s) := by
  refine .andThen (packageTool_ensures c hvalid) ?_ ?_
  · rintro obstacle events ⟨⟨tool, htool⟩, -⟩
    cases htool
  · rintro tool lookups ⟨-, hlookups⟩
    refine .andThen (tellTools_ensures terminal c s tool) ?_ ?_
    · rintro obstacle events ⟨rfl, ⟨htold, -⟩ | ⟨htold, hmuch⟩⟩
      · cases htold
      · cases htold
        rw [List.append_nil]
        exact ⟨hlookups, .inr ⟨rfl, hmuch⟩⟩
    · rintro _ events ⟨rfl, ⟨-, hfine⟩ | ⟨htold, -⟩⟩
      · refine .andThen (verifier_ensures hvalid) ?_ ?_
        · rintro obstacle events ⟨-, verifier, hverifier⟩
          cases hverifier
        · rintro verifier events ⟨rfl, -⟩
          refine .done ?_
          simp only [List.append_nil]
          exact ⟨hlookups, .inl ⟨_, rfl, rfl, rfl, hfine⟩⟩
      · cases htold

theorem Cleared.isValid (h : Cleared c environment s m front) :
    s.validate environment = .ok () := by
  cases h with
  | intro hsettings hvalid hmanifest h => exact hvalid

variable {σ : Type} {serve : Collaborator Host.interface σ} {terminal : Bool} {w w' : σ}

/-- An obstacle is told, and that is the end. -/
theorem run_of_error (h : (prepare terminal c).exec serve w = (.error obstacle, w')) :
    ((run terminal c).exec serve w).1 = obstacle.exitCode ∧
      (run terminal c).transcript serve w =
        (prepare terminal c).transcript serve w ++ [⟨.report (obstacle.line terminal), ()⟩] := by
  simp [run, carryOut, Step.andThen, bind_assoc, exec_bind, transcript_bind, h, Console.report,
    Session.ask, exec, transcript]

/-- A run is held, and its summary is printed. -/
theorem run_of_ok {p : Prepared} (h : (prepare terminal c).exec serve w = (.ok p, w')) :
    ((run terminal c).exec serve w).1 = 0 ∧
      (run terminal c).transcript serve w =
        (prepare terminal c).transcript serve w ++
          (p.project.upgrade (c.options p.settings) p.manifest).transcript serve w' ++
            [⟨.print ((presentation c).render terminal
              ((p.project.upgrade (c.options p.settings) p.manifest).exec serve w').1.1), ()⟩] := by
  simp [run, carryOut, upgrade, Step.andThen, bind_assoc, exec_bind, transcript_bind, h,
    exec, transcript]

/-- How a program that does what a command line asks for ends: with which status, and after which
calls. -/
structure Ends (terminal : Bool) (c : CommandLine) (environment : Environment)
    (serve : Collaborator Host.interface σ) (w : σ) (session : Session Host.interface Nat) :
    Prop where
  /-- It fails just if an obstacle is met. -/
  fails_iff : (session.exec serve w).1 = 1 ↔
    ∃ obstacle, Obstructed c environment obstacle (session.journal isNotable serve w)
  /-- The obstacle is told last of all. -/
  told : ∀ obstacle, Obstructed c environment obstacle (session.journal isNotable serve w) →
    (session.transcript serve w).getLast? = some ⟨.report (obstacle.line terminal), ()⟩
  /-- Until then nothing is touched. -/
  untouched : ∀ obstacle, Obstructed c environment obstacle (session.journal isNotable serve w) →
    ∀ event ∈ session.journal isNotable serve w,
      (∃ path, event.request = .contentOf path) ∨ event.request = .start (revParse c)
  /-- Without an obstacle a run is held and nothing but its summary is printed. -/
  succeeds : (∀ obstacle, ¬ Obstructed c environment obstacle (session.journal isNotable serve w)) →
    ∃ settings manifest front rest,
      session.journal isNotable serve w = front ++ rest ∧
        Cleared c environment settings manifest front ∧
        (settings.polling.deadline ≠ none →
          (session.exec serve w).1 = 0 ∧
            ∃ p w', (prepare terminal c).exec serve w = (.ok p, w') ∧ p.settings = settings ∧
              p.manifest = manifest ∧
              session.journal Host.Call.isPrint serve w =
                [⟨.print ((presentation c).render terminal
                  ((p.project.upgrade (c.options settings) manifest).exec serve w').1.1), ()⟩])

end Program

end Patchwise
