/-
Settings as a TOML document, and as the bytes of a file.

Each part of the settings is a section, each setting a key in it.  Whatever a document leaves out
takes its default, and what it holds beyond the settings is passed over.  A section may also be
written as an array of its settings in their order, and one that is a mere date changes nothing.
-/
import GatewayLogin.Settings.Basic
import GatewayLogin.Settings.Level
import GatewayLogin.Text.Utf8
import GatewayLogin.Toml.Codec

namespace GatewayLogin

open Toml (Scalar Section Value)

inductive DocumentProblem where
  /-- The text is no document. -/
  | malformed
  /-- A setting has a value of the wrong kind or out of range. -/
  | unsuitable
  /-- A log level has an unknown name. -/
  | unknownLevel (name : String)
deriving Repr, DecidableEq

def DocumentProblem.message : DocumentProblem → String
  | .malformed => "malformed document"
  | .unsuitable => "unsuitable value"
  | .unknownLevel name => "unknown log level `" ++ name ++ "`"

/-- The fault of a document that holds no settings. -/
def DocumentProblem.fault (problem : DocumentProblem) : Fault :=
  .configuration ("invalid TOML: " ++ problem.message)

/-- A setting in a section: its key, and how its value is taken up. -/
structure SettingKey (α : Type) where
  key : String
  take : Value → α → Except DocumentProblem α

def SettingKey.text {α : Type} (key : String) (set : String → α → α) : SettingKey α :=
  ⟨key, fun value settings =>
    match value with
    | .scalar (.text text) => .ok (set text settings)
    | _ => .error .unsuitable⟩

def SettingKey.switch {α : Type} (key : String) (set : Bool → α → α) : SettingKey α :=
  ⟨key, fun value settings =>
    match value with
    | .scalar (.boolean on) => .ok (set on settings)
    | _ => .error .unsuitable⟩

/-- A setting that holds a number below a limit. -/
def SettingKey.number {α : Type} (key : String) (limit : Nat) (set : Nat → α → α) :
    SettingKey α :=
  ⟨key, fun value settings =>
    match value with
    | .scalar (.integer n) =>
        if 0 ≤ n ∧ n < limit then .ok (set n.toNat settings) else .error .unsuitable
    | _ => .error .unsuitable⟩

/-- A setting that holds the name of a log level. -/
def SettingKey.level {α : Type} (key : String) (set : LogLevel → α → α) : SettingKey α :=
  ⟨key, fun value settings =>
    match value with
    | .scalar (.text name) =>
        match LogLevel.ofText? name with
        | some level => .ok (set level settings)
        | none => .error (.unknownLevel name)
    | _ => .error .unsuitable⟩

/-- Take up what a value holds of some settings. -/
def takeSection {α : Type} (keys : List (SettingKey α)) (value : Value) (settings : α) :
    Except DocumentProblem α :=
  match value with
  | .table entries =>
      entries.foldlM (fun settings entry =>
        match keys.find? fun k => k.key == entry.1 with
        | some k => k.take entry.2 settings
        | none => .ok settings) settings
  | .array items =>
      (keys.zip items).foldlM (fun settings pair => pair.1.take pair.2 settings) settings
  | .dateTime _ => .ok settings
  | _ => .error .unsuitable

def ClientSettings.keys : List (SettingKey ClientSettings) := [
  .text "server_url" fun url s => { s with serverUrl := url },
  .number "connect_timeout" UInt64.size fun n s => { s with connectTimeout := .ofMilliseconds n },
  .switch "wrap_in_envelope" fun on s => { s with wrapInEnvelope := on },
  .number "sign_in_command" UInt32.size fun n s => { s with signInCommand := n.toUInt32 }]

def TransportSettings.keys : List (SettingKey TransportSettings) := [
  .number "max_frame_size" UInt64.size fun n s => { s with maxFrameSize := n.toUInt64 },
  .number "outbound_queue" UInt64.size fun n s => { s with outboundQueue := n.toUInt64 }]

def LoggingSettings.keys : List (SettingKey LoggingSettings) := [
  .text "app_name" fun name s => { s with appName := name },
  .level "log_level" fun level s => { s with logLevel := level },
  .switch "log_to_console" fun on s => { s with logToConsole := on },
  .switch "json_format" fun on s => { s with jsonFormat := on }]

/-- The sections in their order.  Each starts from its defaults. -/
def Settings.keys : List (SettingKey Settings) := [
  ⟨"client", fun value s =>
    (takeSection ClientSettings.keys value {}).map fun client => { s with client }⟩,
  ⟨"transport", fun value s =>
    (takeSection TransportSettings.keys value {}).map fun transport => { s with transport }⟩,
  ⟨"logging", fun value s =>
    (takeSection LoggingSettings.keys value {}).map fun logging => { s with logging }⟩]

/-- The settings that the entries of a document hold. -/
def Settings.ofEntries (entries : Toml.Entries) : Except DocumentProblem Settings :=
  takeSection Settings.keys (.table entries) {}

def Settings.ofToml (text : String) (codec : Toml.Codec := .plain) :
    Except DocumentProblem Settings :=
  match codec.read? text with
  | some entries => Settings.ofEntries entries
  | none => .error .malformed

/-- The whole milliseconds of the connect timeout, as far as 64 bits hold them. -/
def ClientSettings.timeoutMilliseconds (s : ClientSettings) : Nat :=
  min s.connectTimeout.milliseconds (UInt64.size - 1)

def Settings.sections (s : Settings) : List Section := [
  ⟨"client", [
    ("server_url", .text s.client.serverUrl),
    ("connect_timeout", .integer s.client.timeoutMilliseconds),
    ("wrap_in_envelope", .boolean s.client.wrapInEnvelope),
    ("sign_in_command", .integer s.client.signInCommand.toNat)]⟩,
  ⟨"transport", [
    ("max_frame_size", .integer s.transport.maxFrameSize.toNat),
    ("outbound_queue", .integer s.transport.outboundQueue.toNat)]⟩,
  ⟨"logging", [
    ("app_name", .text s.logging.appName),
    ("log_level", .text s.logging.logLevel.name),
    ("log_to_console", .boolean s.logging.logToConsole),
    ("json_format", .boolean s.logging.jsonFormat)]⟩]

/-- The fault of settings that no document can hold. -/
def unwritableSettings : Fault :=
  .configuration "cannot serialize: out-of-range value"

/-- The document of settings.  A number beyond 63 bits has no place in one. -/
def Settings.toToml (s : Settings) (codec : Toml.Codec := .plain) : Except Fault String :=
  match codec.write? s.sections with
  | some text => .ok text
  | none => .error unwritableSettings

def Settings.exampleToml : String :=
  Toml.render ({} : Settings).sections

inductive FileProblem where
  /-- There is no such file, or it is no text. -/
  | unreadable
  | document (problem : DocumentProblem)
deriving Repr, DecidableEq

/-- The settings that a file holds, given its bytes if there is one. -/
def Settings.ofFile : Option Bytes → Except FileProblem Settings
  | none => .error .unreadable
  | some bytes =>
      match Text.strict? bytes with
      | none => .error .unreadable
      | some text =>
          match Settings.ofToml text with
          | .ok settings => .ok settings
          | .error problem => .error (.document problem)

/-- The fault of a file that holds no settings. -/
def FileProblem.fault : FileProblem → Fault
  | .unreadable => .configuration "cannot read"
  | .document problem => problem.fault

/-- The text that a file gets from settings, if its directory is there to take it. -/
def Settings.toFile (s : Settings) (directoryExists : Bool) : Except Fault String := do
  let text ← s.toToml
  if directoryExists then return text else throw (.configuration "cannot write")

end GatewayLogin
