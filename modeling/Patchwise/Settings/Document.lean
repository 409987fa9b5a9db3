import Patchwise.Settings
import Patchwise.Toml.Mismatch
import Patchwise.Toml.Reader

/-!
# Configuration files

Reading a configuration from the text of its file, which is TOML.

## Main definitions

- `Settings.fields` — the fields of a configuration
- `Settings.ofText` — the configuration that a text tells
- `Settings.ofFile` — the configuration in a file, which need not be there
-/

namespace Patchwise.Settings

def asStrategy : Toml → Except Toml.Mismatch Strategy :=
  Toml.asWord (α := Strategy) [Strategy.conservative.label, Strategy.aggressive.label]
    Strategy.ofLabel?

def asVerifyMode : Toml → Except Toml.Mismatch VerifyMode :=
  Toml.asWord (α := VerifyMode) [VerifyMode.testCommand.label, VerifyMode.pipeline.label]
    VerifyMode.ofLabel?

def asTexts : Toml → Except Toml.Mismatch (List String) :=
  Toml.asList Toml.asText

def Verify.fields : List (Toml.Field Verify) :=
  [.of "mode" asVerifyMode fun mode v => { v with mode },
   .of "test_command" asTexts fun testCommand v => { v with testCommand }]

def Ci.fields : List (Toml.Field Ci) :=
  [.of "project_slug" Toml.asText fun slug c => { c with projectSlug := some slug },
   .of "api_base" Toml.asText fun apiBase c => { c with apiBase },
   .of "token_env" Toml.asText fun tokenVariable c => { c with tokenVariable },
   .of "poll_interval_secs" (Toml.asNat 64) fun pollIntervalSecs c => { c with pollIntervalSecs },
   .of "max_polls" (Toml.asNat 32) fun maxPolls c => { c with maxPolls }]

def fields : List (Toml.Field Settings) :=
  [.of "manifest" (Toml.asTextNamed "path string") fun manifest s => { s with manifest },
   .of "dependency_types" asTexts fun dependencyTypes s => { s with dependencyTypes },
   .of "strategy" asStrategy fun strategy s => { s with strategy },
   .of "package_manager" Toml.asText fun word s => { s with packageManager := some word },
   .of "verify" (Toml.asRecord "VerifyConfig" Verify.fields .usual)
     fun verify s => { s with verify },
   .of "ci" (Toml.asRecord "CiConfig" Ci.fields .usual) fun ci s => { s with ci }]

/-- The configuration that a text tells, or what is wrong with the text. -/
def ofText (text : String) : Except String Settings := do
  let entries ← (Toml.read text).mapError (·.message)
  (Toml.ofEntries fields usual entries).mapError (·.message)

/-- The configuration in a file. If there is no file it is the usual one. -/
def ofFile (path : String) : File.Content → Except InputError Settings
  | .absent => .ok usual
  | .unreadable reason => .error (.unreadable path reason)
  | .bytes bytes =>
    match File.text bytes with
    | .error reason => .error (.unreadable path reason)
    | .ok content =>
      (ofText content).mapError fun reason => .invalidSettings (path ++ ": " ++ reason)

end Patchwise.Settings
