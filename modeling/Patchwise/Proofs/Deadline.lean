import Mathlib.Algebra.Group.Nat.Defs
import Patchwise.Proofs.Manifest.Parsing
import Patchwise.Proofs.Program

/-!
# Deadlines that are too long

How often a pipeline is asked about and how long it is waited before each time are configured
apart from each other, and each of the two fits its own word. Their product is looked at only when
much is told, and there it need not fit.

## Main results

- `Settings.ofText_isSized` — the numbers of a configuration that was read fit their words
- `Settings.deadline_eq_none_iff` — a deadline is too long just if it does not fit a word
- `Program.stops_just_if_deadline_overflows` — when the program stops over a deadline
- `Program.accepted_without_deadline` — a configuration that is accepted nevertheless
-/

namespace Patchwise

/-! ## Records that are read field by field -/

theorem Except.eq_ok_of_toOption {ε α : Type} {x : Except ε α} {a : α}
    (h : x.toOption = some a) : x = .ok a := by
  cases x with
  | ok b => exact congrArg Except.ok (Option.some.inj h)
  | error e => cases h

/-- What every step of a loop keeps holds at its end. -/
theorem Except.foldlM_invariant {ε α β : Type} {f : β → α → Except ε β} {p : β → Prop}
    {l : List α} (hstep : ∀ a ∈ l, ∀ b b', p b → f b a = .ok b' → p b') {b last : β} (hb : p b)
    (h : l.foldlM f b = .ok last) : p last := by
  induction l generalizing b with
  | nil =>
    obtain rfl : b = last := Except.ok.inj h
    exact hb
  | cons a rest ih =>
    rw [List.foldlM_cons] at h
    obtain ⟨b', hb', hrest⟩ := Except.bind_eq_ok_iff.1 h
    obtain ⟨hfirst, hsteps⟩ := List.forall_mem_cons.1 hstep
    exact ih hsteps (hfirst b b' hb hb') hrest

namespace Toml

variable {α : Type} {fields : List (Field α)} {usual : α} {p : α → Prop}

/-- A property of records that setting a field never takes away. -/
def KeptBy (p : α → Prop) (field : Field α) : Prop :=
  ∀ value a a', p a → field.set value a = .ok a' → p a'

theorem KeptBy.of {β : Type} {name : String} {read : Toml → Except Mismatch β} {put : β → α → α}
    (h : ∀ value found a, read value = .ok found → p a → p (put found a)) :
    KeptBy p (.of name read put) := by
  intro value a a' ha hset
  cases hread : read value with
  | error mismatch =>
    simp only [Field.of, hread] at hset
    cases hset
  | ok found =>
    simp only [Field.of, hread] at hset
    obtain rfl := Except.ok.inj hset
    exact h value found a hread ha

theorem ofEntries_invariant (hfields : ∀ field ∈ fields, KeptBy p field) (husual : p usual)
    {entries : Entries} {a : α} (h : ofEntries fields usual entries = .ok a) : p a := by
  refine Except.foldlM_invariant ?_ husual h
  rintro ⟨key, value⟩ - b b' hb hstep
  dsimp only at hstep
  cases hfield : fields.find? (·.name == key) with
  | none =>
    rw [hfield] at hstep
    cases hstep
  | some field =>
    rw [hfield] at hstep
    exact hfields field (List.mem_of_find?_eq_some hfield) value b b' hb hstep

theorem asRecord_invariant (hfields : ∀ field ∈ fields, KeptBy p field) (husual : p usual)
    {record : String} {value : Toml} {a : α}
    (h : asRecord record fields usual value = .ok a) : p a := by
  have hitems : ∀ items, ofItems fields usual items = .ok a → p a := by
    intro items hitems
    refine Except.foldlM_invariant ?_ husual hitems
    rintro ⟨field, item⟩ hmem b b' hb hstep
    exact hfields field (List.of_mem_zip hmem).1 item b b' hb hstep
  unfold asRecord at h
  split at h
  · exact ofEntries_invariant hfields husual h
  · cases h
  · split at h
    · exact hitems _ h
    · cases h

theorem asNat_lt {bits : Nat} {value : Toml} {n : Nat} (h : asNat bits value = .ok n) :
    n < 2 ^ bits := by
  unfold asNat at h
  dsimp only at h
  split at h
  next given =>
    split at h
    next hfits =>
      obtain rfl := Except.ok.inj h
      have hcount : Word.count bits = 2 ^ bits := rfl
      simp only [Word.isUnsigned, Bool.and_eq_true, decide_eq_true_eq, hcount] at hfits
      omega
    next => split at h <;> cases h
  next => cases h

end Toml

/-! ## Configurations -/

namespace Settings

/-- The numbers of a configuration fit the words that they are kept in. -/
def Ci.IsSized (c : Ci) : Prop :=
  c.pollIntervalSecs < 2 ^ 64 ∧ c.maxPolls < 2 ^ 32

theorem Ci.fields_keep_isSized : ∀ field ∈ fields, Toml.KeptBy IsSized field := by
  simp only [fields, List.forall_mem_cons]
  refine ⟨.of ?_, .of ?_, .of ?_, .of ?_, .of ?_, by simp⟩
  · exact fun _ _ _ _ h => h
  · exact fun _ _ _ _ h => h
  · exact fun _ _ _ _ h => h
  · exact fun _ _ _ hread h => ⟨Toml.asNat_lt hread, h.2⟩
  · exact fun _ _ _ hread h => ⟨h.1, Toml.asNat_lt hread⟩

theorem Ci.usual_isSized : usual.IsSized := by
  constructor <;> decide

theorem ofText_isSized {text : String} {s : Settings} (h : ofText text = .ok s) :
    s.ci.IsSized := by
  obtain ⟨entries, -, hentries⟩ := Except.bind_eq_ok_iff.1 h
  have hfields : ∀ field ∈ fields, Toml.KeptBy (fun s => s.ci.IsSized) field := by
    simp only [fields, List.forall_mem_cons]
    refine ⟨.of ?_, .of ?_, .of ?_, .of ?_, .of ?_, .of ?_, by simp⟩
    · exact fun _ _ _ _ h => h
    · exact fun _ _ _ _ h => h
    · exact fun _ _ _ _ h => h
    · exact fun _ _ _ _ h => h
    · exact fun _ _ _ _ h => h
    · exact fun _ _ _ hread _ =>
        Toml.asRecord_invariant Ci.fields_keep_isSized Ci.usual_isSized hread
  exact Toml.ofEntries_invariant hfields Ci.usual_isSized (Except.eq_ok_of_mapError hentries)

variable {s : Settings} {environment : String → Option String}

/-- A valid configuration whose upgrades a pipeline verifies lets it be asked about. -/
theorem maxPolls_pos (h : s.validate environment = .ok ()) (hmode : s.verify.mode = .pipeline) :
    0 < s.ci.maxPolls := by
  obtain ⟨_, htext, -⟩ := Except.bind_eq_ok_iff.1 h
  obtain ⟨_, -, hrest⟩ := Except.bind_eq_ok_iff.1 htext
  obtain ⟨_, -, hrest⟩ := Except.bind_eq_ok_iff.1 hrest
  rw [hmode] at hrest
  obtain ⟨_, -, hpolls⟩ := Except.bind_eq_ok_iff.1 hrest
  unfold refuseIf at hpolls
  split at hpolls
  · cases hpolls
  next hzero => simpa [Nat.pos_iff_ne_zero] using hzero

/-- A file that a text was written to holds the configuration that the text holds. -/
theorem ofFile_holding (path text : String) :
    ofFile path (.holding text) =
      (ofText text).mapError fun reason => .invalidSettings (path ++ ": " ++ reason) := by
  rw [File.Content.holding, ofFile, File.text_encode]

/-- The deadline is the time of all polls together, if its seconds fit a word. -/
theorem deadline_eq (s : Settings) :
    s.polling.deadline =
      if s.ci.pollIntervalSecs * s.ci.maxPolls < 2 ^ 64 then
        some (s.ci.pollIntervalSecs * s.ci.maxPolls * 1000)
      else none := by
  have htotal : s.polling.interval * s.polling.maxPolls =
      s.ci.pollIntervalSecs * s.ci.maxPolls * 1000 :=
    Nat.mul_right_comm _ _ _
  have hmax : Pipeline.Polling.maxSeconds = 2 ^ 64 - 1 := rfl
  rw [Pipeline.Polling.deadline, htotal, hmax]
  generalize s.ci.pollIntervalSecs * s.ci.maxPolls = seconds
  have hle : seconds * 1000 / 1000 ≤ 2 ^ 64 - 1 ↔ seconds < 2 ^ 64 := by omega
  simp only [hle]

theorem deadline_eq_none_iff (s : Settings) :
    s.polling.deadline = none ↔ 2 ^ 64 ≤ s.ci.pollIntervalSecs * s.ci.maxPolls := by
  rw [deadline_eq]
  split <;> simp <;> omega

end Settings

/-! ## The program -/

namespace Program

open Session

variable {c : CommandLine} {environment : Environment} {s s' : Settings} {m m' : Manifest}
  {front front' rest rest' : List (Event Host.interface)}

/-- The calls that are made until no obstacle is left tell the configuration. -/
theorem Cleared.unique (h : Cleared c environment s m front)
    (h' : Cleared c environment s' m' front') (hevents : front ++ rest = front' ++ rest') :
    s = s' := by
  cases h with
  | intro hsettings =>
    cases h' with
    | intro hsettings' =>
      exact congrArg c.amend (eq_of_front_eq hevents hsettings hsettings').1

section Runs

variable {σ : Type} {serve : Collaborator Host.interface σ} {terminal : Bool} {w w' : σ}

theorem Step.exec_andThen {α β : Type} {step : Step α} {rest : α → Step β} {a : α}
    (h : step.exec serve w = (.ok a, w')) :
    (step.andThen rest).exec serve w = (rest a).exec serve w' := by
  rw [Step.andThen, exec_bind, h]

/-- An obstacle that is met early is the end, and telling it is not notable. -/
theorem run_of_opening_error {obstacle : Obstacle}
    (h : (opening terminal c).exec serve w = (.error obstacle, w')) :
    ((run terminal c).exec serve w).1 = obstacle.exitCode ∧
      (run terminal c).journal isNotable serve w =
        (opening terminal c).journal isNotable serve w := by
  have hprepare : (prepare terminal c).exec serve w = (.error obstacle, w') := by
    rw [prepare_eq, Step.andThen, exec_bind, h]
    rfl
  have hjournal : (prepare terminal c).journal isNotable serve w =
      (opening terminal c).journal isNotable serve w := by
    rw [prepare_eq, Step.andThen, journal_bind, h]
    exact List.append_nil _
  obtain ⟨hstatus, htranscript⟩ := run_of_error hprepare
  refine ⟨hstatus, ?_⟩
  rw [journal, htranscript, List.filter_append, ← hjournal]
  exact List.append_nil _

theorem exec_prepare_of_opening_ok (h : (opening terminal c).exec serve w = (.ok (s, m), w')) :
    (prepare terminal c).exec serve w = (closing terminal c s m).exec serve w' := by
  rw [prepare_eq, Step.exec_andThen h]

theorem exists_journal_run_eq (terminal : Bool) (c : CommandLine)
    (serve : Collaborator Host.interface σ) (w : σ) :
    ∃ rest, (run terminal c).journal isNotable serve w =
      (opening terminal c).journal isNotable serve w ++ rest := by
  rw [run, carryOut, prepare_eq, Step.andThen, Step.andThen, bind_assoc, bind_assoc, journal_bind]
  exact ⟨_, rfl⟩

/-- The program meets an obstacle, or it stops over a deadline, or it ends well. -/
theorem run_cases (terminal : Bool) (c : CommandLine) (hholds : Holds environment serve) (w : σ) :
    (∃ obstacle, Obstructed c environment obstacle ((run terminal c).journal isNotable serve w) ∧
      ((run terminal c).exec serve w).1 = 1) ∨
    ∃ s m front rest, (run terminal c).journal isNotable serve w = front ++ rest ∧
      Cleared c environment s m front ∧
      (TellsTooMuch c s ∧ ((run terminal c).exec serve w).1 = 101 ∨
        ¬ TellsTooMuch c s ∧ ((run terminal c).exec serve w).1 = 0) := by
  have hopening := opening_ensures terminal c serve w hholds
  rcases hopened : (opening terminal c).exec serve w with ⟨_ | ⟨s, m⟩, w₁⟩
  case error obstacle =>
    rw [hopened] at hopening
    have hobstructed : Obstructed c environment obstacle _ := hopening
    obtain ⟨hstatus, hjournal⟩ := run_of_opening_error hopened
    refine .inl ⟨obstacle, ?_, ?_⟩
    · rw [hjournal]
      exact hobstructed
    · rw [hstatus, hobstructed.exitCode_eq]
  case ok =>
    rw [hopened] at hopening
    have hcleared : Cleared c environment s m _ := hopening
    obtain ⟨rest, hrest⟩ := exists_journal_run_eq terminal c serve w
    refine .inr ⟨s, m, _, rest, hrest, hcleared, ?_⟩
    have hclosing := (closing_ensures terminal c m hcleared.isValid serve w₁ hholds).2
    have hprepare := exec_prepare_of_opening_ok hopened
    rcases hclosed : (closing terminal c s m).exec serve w₁ with ⟨answer, w₂⟩
    rw [hclosed] at hclosing hprepare
    rcases hclosing with ⟨p, rfl, -, -, hfine⟩ | ⟨rfl, hmuch⟩
    · exact .inr ⟨hfine, (run_of_ok hprepare).1⟩
    · exact .inl ⟨hmuch, (run_of_error hprepare).1⟩

/-- The program stops over a deadline just if it meets no obstacle and is to tell of a pipeline that
it may wait for it longer than a word of seconds says. -/
theorem overflows_iff (terminal : Bool) {arguments : List String}
    (hread : CommandLine.read arguments = .ok c) (hholds : Holds environment serve) (w : σ) :
    ((start terminal arguments).exec serve w).1 = 101 ↔
      ∃ s m front rest,
        (start terminal arguments).journal isNotable serve w = front ++ rest ∧
        Cleared c environment s m front ∧ c.verbose = true ∧ s.verify.mode = .pipeline ∧
        2 ^ 64 ≤ s.ci.pollIntervalSecs * s.ci.maxPolls := by
  have hstart : start terminal arguments = run terminal c := by rw [start, hread]
  rw [hstart]
  constructor
  · intro hstatus
    rcases run_cases terminal c hholds w with
      ⟨_, -, hone⟩ | ⟨s, m, front, rest, hevents, hcleared, h⟩
    · omega
    · rcases h with ⟨⟨hverbose, hmode, hdeadline⟩, -⟩ | ⟨-, hzero⟩
      · exact ⟨s, m, front, rest, hevents, hcleared, hverbose, hmode,
          s.deadline_eq_none_iff.1 hdeadline⟩
      · omega
  · rintro ⟨s, m, front, rest, hevents, hcleared, hverbose, hmode, hlong⟩
    have hmuch : TellsTooMuch c s := ⟨hverbose, hmode, s.deadline_eq_none_iff.2 hlong⟩
    rcases run_cases terminal c hholds w with
      ⟨obstacle, hobstructed, -⟩ | ⟨s', m', front', rest', hevents', hcleared', h⟩
    · rw [hevents] at hobstructed
      exact absurd hobstructed hcleared.not_obstructed
    · obtain rfl := hcleared.unique hcleared' (hevents.symm.trans hevents')
      rcases h with ⟨-, hstatus⟩ | ⟨hfine, -⟩
      · exact hstatus
      · exact absurd hmuch hfine

/-- A configuration that was read and is valid for a pipeline keeps its numbers in words, asks at
least once, and has a deadline just if the time of all polls fits a word of seconds. Nothing but
much telling ever looks at the deadline, and then the program stops if there is none. -/
theorem stops_just_if_deadline_overflows (terminal : Bool) {arguments : List String}
    (hread : CommandLine.read arguments = .ok c) (hholds : Holds environment serve) (w : σ) :
    (∀ text s, Settings.ofText text = .ok s → s.validate environment = .ok () →
      s.verify.mode = .pipeline →
        s.ci.IsSized ∧ 0 < s.ci.maxPolls ∧
        s.polling.deadline =
          if s.ci.pollIntervalSecs * s.ci.maxPolls < 2 ^ 64 then
            some (s.ci.pollIntervalSecs * s.ci.maxPolls * 1000)
          else none) ∧
    (((start terminal arguments).exec serve w).1 = 101 ↔
      ∃ s m front rest,
        (start terminal arguments).journal isNotable serve w = front ++ rest ∧
        Cleared c environment s m front ∧ c.verbose = true ∧ s.verify.mode = .pipeline ∧
        2 ^ 64 ≤ s.ci.pollIntervalSecs * s.ci.maxPolls) :=
  ⟨fun _ s htext hvalid hmode =>
    ⟨Settings.ofText_isSized htext, Settings.maxPolls_pos hvalid hmode, s.deadline_eq⟩,
    overflows_iff terminal hread hholds w⟩

end Runs

/-! ## A deadline of many years -/

/-- The text of a configuration by which a pipeline is asked about a thousand times and once more,
each time after a thousandth of the longest time that a word of seconds can say. -/
def patientText : String :=
  "[verify]\nmode = \"ci\"\n[ci]\nproject_slug = \"gh/org/repo\"\n" ++
    "poll_interval_secs = 18446744073709551\nmax_polls = 1001\n"

def patientSettings : Settings :=
  { Settings.usual with
    verify := { Settings.usual.verify with mode := .pipeline }
    ci :=
      { Settings.usual.ci with
        projectSlug := some "gh/org/repo"
        pollIntervalSecs := 18446744073709551
        maxPolls := 1001 } }

theorem ofText_patientText : Settings.ofText patientText = .ok patientSettings :=
  Except.eq_ok_of_toOption (by decide +kernel)

/-- A configuration is accepted for a pipeline though its deadline is too long. -/
theorem accepted_without_deadline :
    Settings.ofText patientText = .ok patientSettings ∧
      patientSettings.validate (fun _ => some "token") = .ok () ∧
      patientSettings.verify.mode = .pipeline ∧ patientSettings.polling.deadline = none :=
  ⟨ofText_patientText, rfl, rfl, by decide +kernel⟩

/-- A machine with that configuration and a manifest that declares nothing, on which every command
succeeds. -/
def patient : Collaborator Host.interface Unit
  | .environment _, w => (some "token", w)
  | request, w =>
    Host.still
      (fun path =>
        if path = "./safeup.toml" then .holding patientText
        else if path = "./package.json" then .bytes [0x7b, 0x7d]
        else .absent)
      (.ok ⟨true, [], []⟩) request w

def verbosely : CommandLine :=
  { CommandLine.blank with verbose := true }

theorem settings_patient : (settings verbosely).exec patient () = (.ok patientSettings, ()) := by
  have hread : Settings.ofFile "./safeup.toml" (.holding patientText) = .ok patientSettings := by
    rw [Settings.ofFile_holding, ofText_patientText]
    rfl
  have hload : (load verbosely.settingsPath (Settings.ofFile verbosely.settingsPath)).exec
      patient () = (.ok patientSettings, ()) := by
    change (Step.ofExcept .input (Settings.ofFile "./safeup.toml"
      (.holding patientText))).exec patient () = _
    rw [hread]
    rfl
  rw [settings, Step.exec_andThen hload]
  rfl

theorem ensureRepository_patient :
    (ensureRepository ⟨verbosely.directory, console false verbosely⟩).exec patient () =
      (.ok (), ()) := by
  have hflaw : (revParse verbosely).flaw? = none := by
    simp [Command.flaw?, revParse, Repository.program, verbosely, CommandLine.directory,
      CommandLine.blank]
  have hstart : ((console false verbosely).start (revParse verbosely)).exec patient () =
      (.ok ⟨true, [], []⟩, ()) := by
    rw [Console.start, exec_bind, hflaw]
    rfl
  change (((console false verbosely).perform (revParse verbosely)).bind fun answer =>
    Step.ofExcept .repository answer).exec patient () = _
  rw [Console.perform, Console.startChecked, exec_bind, exec_bind, exec_bind, hstart]
  rfl

theorem exists_opening_patient :
    ∃ m, (opening false verbosely).exec patient () = (.ok (patientSettings, m), ()) := by
  have hfound : (Manifest.ofFile "./package.json" (.bytes [0x7b, 0x7d])).toOption.isSome :=
    by decide +kernel
  obtain ⟨m, hm⟩ := Option.isSome_iff_exists.1 hfound
  have hcheck : (check patientSettings).exec patient () = (.ok (), ()) := rfl
  have htold : (tellMuch (console false verbosely) (banner verbosely patientSettings)).exec
      patient () = (.ok (), ()) := rfl
  have hmanifest : (manifest verbosely patientSettings).exec patient () = (.ok m, ()) := by
    change (Step.ofExcept .input (Manifest.ofFile "./package.json" (.bytes [0x7b, 0x7d]))).exec
      patient () = _
    rw [Except.eq_ok_of_toOption hm]
    rfl
  refine ⟨m, ?_⟩
  rw [opening, Step.exec_andThen settings_patient, Step.exec_andThen hcheck,
    Step.exec_andThen htold, Step.exec_andThen hmanifest,
    Step.exec_andThen ensureRepository_patient]
  rfl

/-- On that machine the program stops over the deadline. -/
theorem stops_patient :
    CommandLine.read ["--verbose"] = .ok verbosely ∧ Holds (fun _ => some "token") patient ∧
      ((start false ["--verbose"]).exec patient ()).1 = 101 ∧
      ∃ s m front rest,
        (start false ["--verbose"]).journal isNotable patient () = front ++ rest ∧
        Cleared verbosely (fun _ => some "token") s m front ∧ verbosely.verbose = true ∧
        s.verify.mode = .pipeline ∧ 2 ^ 64 ≤ s.ci.pollIntervalSecs * s.ci.maxPolls := by
  have hread : CommandLine.read ["--verbose"] = .ok verbosely := rfl
  have hholds : Holds (fun _ => some "token") patient := fun _ _ => rfl
  obtain ⟨m, hm⟩ := exists_opening_patient
  have hclosing : (closing false verbosely patientSettings m).exec patient () =
      (.error .overflow, ()) := rfl
  have hstatus : ((start false ["--verbose"]).exec patient ()).1 = 101 := by
    rw [start, hread]
    exact (run_of_error ((exec_prepare_of_opening_ok hm).trans hclosing)).1
  exact ⟨hread, hholds, hstatus,
    (stops_just_if_deadline_overflows false hread hholds ()).2.1 hstatus⟩

end Program

end Patchwise
