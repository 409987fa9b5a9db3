import Patchwise.Proofs.File
import Patchwise.Upgrade.Run

/-!
# A manifest in custody

A manifest is held in memory while it is edited, written and read again, and while others change its
file or remove it. Its text and its value stay in step through all of that, and a request that fails
leaves everything as it was.

## Main definitions

- `Manifest.Request` — what is asked of a manifest
- `Manifest.Custody`, `Manifest.Custody.ask` — a manifest beside the files, and what a request does
- `Manifest.Request.inPlace` — a request as writes to fields, one by one
- `Manifest.Custody.history` — what happens one after the other
- `Manifest.Moment.IsSound` — what a request or another's change may do and what it must not

## Main results

- `Manifest.Custody.run_inPlace` — a request in place does what `ask` says
- `Manifest.Custody.isSound_of_mem_history` — every moment of every history is sound
- `Manifest.Custody.exec_save`, `Manifest.Custody.exec_revertSteps` — runs write manifests and read
  them again as they are asked to here

## Design notes

A disk may refuse to be written for any reason, and what a failed writing leaves is not said. Others
may leave any files whatsoever.

`Custody.ask` takes one whole manifest for another. In place, the fields of a manifest are written
one after the other, and what was written in front of a failure would stay; that nothing is comes
from all checks being made in front of the first write.
-/

namespace Patchwise.Manifest

variable {σ : Type}

/-! ## Requests -/

/-- What is asked of a manifest. -/
inductive Request
  | setVersion (dependencyType package version : String)
  | setSpec (dependencyType package spec : String)
  /-- The text is to be written to the file. -/
  | save
  /-- The file is to be read again. -/
  | reload
  deriving DecidableEq, Repr

/-- The text that an edit makes of another, if the request is an edit and finds its place. -/
def Request.edit? (text : String) : Request → Option String
  | setVersion dependencyType package version =>
    (replaceVersion dependencyType.toList package.toList version.toList text.toList).map .ofList
  | setSpec dependencyType package spec =>
    (replaceSpec dependencyType.toList package.toList spec.toList text.toList).map .ofList
  | save | reload => none

/-- A manifest that is held in memory, beside the files. -/
structure Custody (σ : Type) where
  manifest : Manifest
  files : σ

namespace Custody

/-- Holds another manifest from now on, if there is one. -/
def adopt (c : Custody σ) : Except InputError Manifest → Except InputError Unit × Custody σ
  | .ok manifest => (.ok (), { c with manifest })
  | .error cause => (.error cause, c)

/-- What a request is answered with, and what it leaves. -/
def ask (disk : File.Disk σ) (c : Custody σ) : Request → Except InputError Unit × Custody σ
  | .setVersion dependencyType package version =>
    c.adopt (c.manifest.setVersion dependencyType package version)
  | .setSpec dependencyType package spec =>
    c.adopt (c.manifest.setSpec dependencyType package spec)
  | .save =>
    let written := disk.store c.manifest.path c.manifest.content c.files
    (written.1.mapError (.unwritable c.manifest.path), { c with files := written.2 })
  | .reload => c.adopt (ofFile c.manifest.path (disk.content c.manifest.path c.files))

end Custody

/-! ## Requests in place -/

/-- What is in custody, field by field. Nothing says that the value is what the text tells. -/
structure Fields (σ : Type) where
  path : String
  content : String
  value : Json
  files : σ

def Custody.fields (c : Custody σ) : Fields σ :=
  ⟨c.manifest.path, c.manifest.content, c.manifest.value, c.files⟩

/-- Writes another text, and the value that it tells. -/
def replaceContent (content : String) : EStateM InputError (Fields σ) Unit := do
  let fields ← get
  match Json.read content with
  | none => throw (.notJson fields.path Json.syntaxMessage)
  | some value =>
    modify fun fields => { fields with content }
    modify fun fields => { fields with value }

/-- Writes what an edit makes of the text, if the edit finds its place. -/
def editInPlace (dependencyType package : String) (edit : List Char → Option (List Char)) :
    EStateM InputError (Fields σ) Unit := do
  let fields ← get
  match edit fields.content.toList with
  | none => throw (.notDeclared fields.path dependencyType package)
  | some content => replaceContent (.ofList content)

/-- A request as writes to the fields, one by one. What is written before a failure stays. -/
def Request.inPlace (disk : File.Disk σ) : Request → EStateM InputError (Fields σ) Unit
  | setVersion dependencyType package version =>
    editInPlace dependencyType package
      (replaceVersion dependencyType.toList package.toList version.toList)
  | setSpec dependencyType package spec =>
    editInPlace dependencyType package
      (replaceSpec dependencyType.toList package.toList spec.toList)
  | save => do
    let fields ← get
    let written := disk.store fields.path fields.content fields.files
    modify fun fields => { fields with files := written.2 }
    match written.1 with
    | .ok () => return ()
    | .error reason => throw (.unwritable fields.path reason)
  | reload => do
    let fields ← get
    match ofFile fields.path (disk.content fields.path fields.files) with
    | .error cause => throw cause
    | .ok m =>
      modify fun fields => { fields with path := m.path }
      modify fun fields => { fields with content := m.content }
      modify fun fields => { fields with value := m.value }

/-- An answer together with the fields that are left. -/
def Fields.leftBy (fields : Fields σ) :
    Except InputError Unit → EStateM.Result InputError (Fields σ) Unit
  | .ok () => .ok () fields
  | .error cause => .error cause fields

namespace Custody

variable {c : Custody σ} {disk : File.Disk σ}

/-- No check stands behind a write, so an edit in place takes one manifest for another or leaves the
one that was there. -/
theorem run_editInPlace (c : Custody σ) (dependencyType package : String)
    (edit : List Char → Option (List Char)) :
    (editInPlace dependencyType package edit).run c.fields =
      let adopted := c.adopt
        (c.manifest.edited dependencyType package (edit c.manifest.content.toList))
      adopted.2.fields.leftBy adopted.1 := by
  rw [editInPlace, EStateM.run_bind, EStateM.run_get]
  cases hedit : edit c.manifest.content.toList with
  | none => simp [fields, hedit, edited, adopt, Fields.leftBy]
  | some content =>
    cases hread : Json.read (.ofList content) with
    | none =>
      simp [fields, hedit, edited, replaceContent, hread, parse_of_not_read hread, adopt,
        Fields.leftBy]
    | some value =>
      simp [fields, hedit, edited, replaceContent, hread, parse_of_read hread, adopt,
        Fields.leftBy]

/-- A request in place answers as `ask` does, and leaves the fields of what `ask` leaves. -/
theorem run_inPlace (disk : File.Disk σ) (c : Custody σ) (request : Request) :
    (request.inPlace disk).run c.fields =
      (c.ask disk request).2.fields.leftBy (c.ask disk request).1 := by
  cases request with
  | setVersion dependencyType package version => exact c.run_editInPlace dependencyType package _
  | setSpec dependencyType package spec => exact c.run_editInPlace dependencyType package _
  | save =>
    cases hwritten : (disk.store c.manifest.path c.manifest.content c.files).1 with
    | ok =>
      have hanswer : (c.ask disk .save).1 = .ok () := by
        simp only [ask, hwritten]
        rfl
      rw [hanswer]
      simp [Request.inPlace, fields, hwritten, ask, Fields.leftBy]
    | error reason =>
      have hanswer : (c.ask disk .save).1 = .error (.unwritable c.manifest.path reason) := by
        simp only [ask, hwritten]
        rfl
      rw [hanswer]
      simp [Request.inPlace, fields, hwritten, ask, Fields.leftBy]
  | reload =>
    cases hread : ofFile c.manifest.path (disk.content c.manifest.path c.files) with
    | error cause => simp [Request.inPlace, fields, hread, ask, adopt, Fields.leftBy]
    | ok m => simp [Request.inPlace, fields, hread, ask, adopt, Fields.leftBy]

end Custody

/-! ## Histories -/

/-- What happens to a manifest or to the files. -/
inductive Happening (σ : Type)
  | asked (request : Request)
  /-- Others leave the files in some state. -/
  | changed (files : σ)

/-- Something that happens, between what it meets and what it leaves. -/
structure Moment (σ : Type) where
  before : Custody σ
  happening : Happening σ
  answer : Except InputError Unit
  after : Custody σ

namespace Custody

/-- The moment of something that happens. -/
def meet (disk : File.Disk σ) (c : Custody σ) : Happening σ → Moment σ
  | .asked request =>
    { before := c, happening := .asked request, answer := (c.ask disk request).1,
      after := (c.ask disk request).2 }
  | .changed files =>
    { before := c, happening := .changed files, answer := .ok (), after := { c with files } }

/-- What happens one after the other. -/
def history (disk : File.Disk σ) : Custody σ → List (Happening σ) → List (Moment σ)
  | _, [] => []
  | c, happening :: rest =>
    c.meet disk happening :: history disk (c.meet disk happening).after rest

end Custody

/-- What a moment in the custody of the manifest at a path keeps, and what it brings about. -/
structure Moment.IsSound (disk : File.Disk σ) (path : String) (m : Moment σ) : Prop where
  /-- The value that lookups are answered from is what the text tells. -/
  read_content : Json.read m.after.manifest.content = some m.after.manifest.value
  /-- The path stays, and the text that would be written is read as the very same manifest. -/
  parse_content : parse path m.after.manifest.content = .ok m.after.manifest
  /-- Only writing reaches the files, unless others change them. -/
  files_eq : ∀ request, m.happening = .asked request → request ≠ .save →
    m.after.files = m.before.files
  /-- Written field by field, a request comes to the same, wherever it fails. -/
  inPlace : ∀ request, m.happening = .asked request →
    (request.inPlace disk).run m.before.fields = m.after.fields.leftBy m.answer
  /-- A request that fails leaves everything as it was, unless it was to write. -/
  eq_of_error : ∀ request cause, m.happening = .asked request → request ≠ .save →
    m.answer = .error cause → m.after = m.before
  /-- An edit replaces the text by what the editor makes of it. -/
  edited : ∀ request, m.happening = .asked request → request ≠ .save → request ≠ .reload →
    m.answer = .ok () →
      request.edit? m.before.manifest.content = some m.after.manifest.content
  /-- Writing leaves the manifest as it is, whether it fails or not. -/
  manifest_of_save : m.happening = .asked .save → m.after.manifest = m.before.manifest
  /-- The file holds the text that was written. -/
  saved : m.happening = .asked .save → m.answer = .ok () →
    disk.content path m.after.files = .holding m.after.manifest.content
  /-- The text is that of the file, whatever it was before. -/
  reloaded : m.happening = .asked .reload → m.answer = .ok () →
    ∃ bytes, disk.content path m.before.files = .bytes bytes ∧
      File.text bytes = .ok m.after.manifest.content
  /-- What others do leaves the manifest as it is. -/
  changed : ∀ files, m.happening = .changed files →
    m.after = { m.before with files }

/-! ## What each request does -/

theorem content_of_edited {m m' : Manifest} {dependencyType package : String}
    {text : Option (List Char)} (h : m.edited dependencyType package text = .ok m') :
    text.map .ofList = some m'.content := by
  cases text with
  | none => cases h
  | some content =>
    rw [(parse_eq_ok_iff.1 h).2]
    rfl

/-- A file that holds a manifest holds its text. -/
theorem ofFile_eq_ok {path : String} {found : File.Content} {m : Manifest}
    (h : ofFile path found = .ok m) :
    m.path = path ∧ ∃ bytes, found = .bytes bytes ∧ File.text bytes = .ok m.content := by
  cases found with
  | absent => cases h
  | unreadable reason => cases h
  | bytes bytes =>
    rw [ofFile] at h
    split at h
    next content htext =>
      obtain ⟨hpath, hcontent⟩ := parse_eq_ok_iff.1 h
      exact ⟨hpath, bytes, rfl, htext.trans (congrArg _ hcontent.symm)⟩
    next => cases h

namespace Custody

variable {c : Custody σ} {disk : File.Disk σ} {cause : InputError}

@[simp]
theorem files_adopt (read : Except InputError Manifest) : (c.adopt read).2.files = c.files := by
  cases read <;> rfl

theorem adopt_eq_of_error {read : Except InputError Manifest}
    (h : (c.adopt read).1 = .error cause) : (c.adopt read).2 = c := by
  cases read with
  | ok m => cases h
  | error => rfl

theorem eq_ok_of_adopt {read : Except InputError Manifest} (h : (c.adopt read).1 = .ok ()) :
    read = .ok (c.adopt read).2.manifest := by
  cases read with
  | ok m => rfl
  | error => cases h

theorem path_adopt {read : Except InputError Manifest}
    (h : ∀ m, read = .ok m → m.path = c.manifest.path) :
    (c.adopt read).2.manifest.path = c.manifest.path := by
  cases read with
  | ok m => exact h m rfl
  | error => rfl

theorem path_ask (request : Request) :
    (c.ask disk request).2.manifest.path = c.manifest.path := by
  cases request with
  | setVersion dependencyType package version =>
    exact path_adopt fun m h => path_of_setVersion h
  | setSpec dependencyType package spec =>
    exact path_adopt fun m h => path_of_setSpec h
  | save => rfl
  | reload => exact path_adopt fun m h => (ofFile_eq_ok h).1

theorem files_ask {request : Request} (h : request ≠ .save) :
    (c.ask disk request).2.files = c.files := by
  cases request with
  | save => exact absurd rfl h
  | _ => exact files_adopt _

theorem ask_eq_of_error {request : Request} (h : request ≠ .save)
    (hcause : (c.ask disk request).1 = .error cause) : (c.ask disk request).2 = c := by
  cases request with
  | save => exact absurd rfl h
  | _ => exact adopt_eq_of_error hcause

theorem edit?_of_ask {request : Request} (hsave : request ≠ .save) (hreload : request ≠ .reload)
    (h : (c.ask disk request).1 = .ok ()) :
    request.edit? c.manifest.content = some (c.ask disk request).2.manifest.content := by
  cases request with
  | save => exact absurd rfl hsave
  | reload => exact absurd rfl hreload
  | _ => exact content_of_edited (eq_ok_of_adopt h)

theorem content_of_saved (h : (c.ask disk .save).1 = .ok ()) :
    disk.content c.manifest.path (c.ask disk .save).2.files = .holding c.manifest.content := by
  apply disk.content_of_stored
  cases hwritten : (disk.store c.manifest.path c.manifest.content c.files).1 with
  | ok => rfl
  | error reason =>
    simp only [ask, hwritten] at h
    cases h

theorem content_of_reloaded (h : (c.ask disk .reload).1 = .ok ()) :
    ∃ bytes, disk.content c.manifest.path c.files = .bytes bytes ∧
      File.text bytes = .ok (c.ask disk .reload).2.manifest.content :=
  (ofFile_eq_ok (eq_ok_of_adopt h)).2

/-! ## What every history keeps -/

@[simp]
theorem happening_meet (happening : Happening σ) :
    (c.meet disk happening).happening = happening := by
  cases happening <;> rfl

theorem path_meet (disk : File.Disk σ) (c : Custody σ) (happening : Happening σ) :
    (c.meet disk happening).after.manifest.path = c.manifest.path := by
  cases happening with
  | asked request => exact path_ask request
  | changed files => rfl

/-- Whatever happens, it happens soundly. -/
theorem isSound_meet (happening : Happening σ) :
    (c.meet disk happening).IsSound disk c.manifest.path where
  read_content := Manifest.read_content _
  parse_content := parse_eq_ok_iff.2 ⟨path_meet disk c happening, rfl⟩
  files_eq request h hsave := by
    obtain rfl : happening = .asked request := by simpa using h
    exact files_ask hsave
  inPlace request h := by
    obtain rfl : happening = .asked request := by simpa using h
    exact run_inPlace disk c request
  eq_of_error request cause h hsave hcause := by
    obtain rfl : happening = .asked request := by simpa using h
    exact ask_eq_of_error hsave hcause
  edited request h hsave hreload hok := by
    obtain rfl : happening = .asked request := by simpa using h
    exact edit?_of_ask hsave hreload hok
  manifest_of_save h := by
    obtain rfl : happening = .asked .save := by simpa using h
    rfl
  saved h hok := by
    obtain rfl : happening = .asked .save := by simpa using h
    exact content_of_saved hok
  reloaded h hok := by
    obtain rfl : happening = .asked .reload := by simpa using h
    exact content_of_reloaded hok
  changed files h := by
    obtain rfl : happening = .changed files := by simpa using h
    rfl

/-- Through every sequence of requests and of changes by others, the text and the value of a
manifest stay in step, only writing reaches the files, and what fails leaves everything as it
was. -/
theorem isSound_of_mem_history (disk : File.Disk σ) (c : Custody σ)
    (happenings : List (Happening σ)) :
    ∀ moment ∈ c.history disk happenings, moment.IsSound disk c.manifest.path := by
  induction happenings generalizing c with
  | nil =>
    intro moment hmem
    cases hmem
  | cons happening rest ih =>
    rw [history]
    refine List.forall_mem_cons.2 ⟨isSound_meet happening, ?_⟩
    -- the rest of the history is in the custody of a manifest at the same path
    have hpath := path_meet disk c happening
    rw [← hpath]
    exact ih _

/-- A manifest with one package. -/
def oneEntry : Manifest :=
  ⟨"package.json", "\x7b\"dependencies\":\x7b\"left\":\"1.0.0\"\x7d\x7d",
    .object [("dependencies", .object [("left", .text "1.0.0")])], by cbv⟩

/-- There is no file at first, and in the end others have removed it again. -/
def goneInTheEnd : List (Happening File.Tree) :=
  [.asked .reload, .asked (.setVersion "dependencies" "left" "1.0.1"),
    .asked (.setSpec "dependencies" "right" "2.0.0"), .asked .save, .asked .reload, .changed ⟨[]⟩,
    .asked .reload]

/-- Two of the requests to read the file fail, and so does the edit of another package's entry. The
last of all is as sound as the others. -/
theorem isSound_goneInTheEnd :
    let moments := (Custody.mk oneEntry ⟨[]⟩).history (File.Tree.disk []) goneInTheEnd
    moments.map (·.answer.toBool) = [false, true, false, true, true, true, false] ∧
      ∃ h : moments ≠ [], (moments.getLast h).IsSound (File.Tree.disk []) "package.json" := by
  intro moments
  have hne : moments ≠ [] := List.cons_ne_nil _ _
  refine ⟨by decide +kernel, hne, ?_⟩
  exact isSound_of_mem_history (File.Tree.disk []) ⟨oneEntry, ⟨[]⟩⟩ goneInTheEnd _
    (List.getLast_mem hne)

/-! ## In a run -/

/-- A run's collaborator keeps its files on a disk. -/
structure IsKept {τ : Type} (disk : File.Disk σ) (files : τ → σ)
    (serve : Collaborator Upgrade.interface τ) : Prop where
  contentOf : ∀ path s, (serve (.contentOf path) s).1 = disk.content path (files s)
  store : ∀ path text s, (serve (.store path text) s).1 = (disk.store path text (files s)).1
  files_store : ∀ path text s,
    files (serve (.store path text) s).2 = (disk.store path text (files s)).2

variable {τ : Type} {files : τ → σ} {serve : Collaborator Upgrade.interface τ}

/-- A run writes a manifest as it is asked to here. -/
theorem exec_save (h : IsKept disk files serve) (m : Manifest) (s : τ) :
    ((Upgrade.save m).exec serve s).1 =
        ((Custody.mk m (files s)).ask disk .save).1.mapError .input ∧
      files ((Upgrade.save m).exec serve s).2 =
        ((Custody.mk m (files s)).ask disk .save).2.files := by
  constructor
  · simp only [Upgrade.save, Session.exec, ask, h.store]
    cases (disk.store m.path m.content (files s)).1 <;> rfl
  · simp only [Upgrade.save, Session.exec, ask, h.files_store]

/-- A run that undoes an attempt edits the manifest as it is asked to here. -/
theorem adopt_putBack (disk : File.Disk σ) (c : Custody σ) (a : Attempt) :
    c.adopt (Upgrade.putBack a c.manifest) =
      c.ask disk (match a.declared with
        | some spec => .setSpec a.dependencyType a.package spec
        | none => .setVersion a.dependencyType a.package a.previous) := by
  unfold Upgrade.putBack
  cases a.declared <;> rfl

/-- Once the file is restored, a run that undoes an attempt reads the manifest again as it is asked
to here. -/
theorem exec_revertSteps (h : IsKept disk files serve) {a : Attempt} {m m' : Manifest}
    {s s' s'' : τ} (hadded : serve (.add a.package a.previous a.dependencyType) s = (.ok (), s'))
    (hput : Upgrade.putBack a m = .ok m')
    (hrestored : serve (.checkout m'.path) s' = (.ok (), s'')) :
    let read := (Custody.mk m' (files s'')).ask disk .reload
    ((Upgrade.revertSteps a m).exec serve s).1 = (read.1.mapError .input, read.2.manifest) := by
  intro read
  simp only [Upgrade.revertSteps, Session.exec, hadded, hput, hrestored, h.contentOf, read, ask]
  cases ofFile m'.path (disk.content m'.path (files s'')) <;> rfl

end Custody

end Patchwise.Manifest
