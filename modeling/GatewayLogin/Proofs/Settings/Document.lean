/-
Settings that are written are read back.

A number beyond 63 bits cannot be written.  All other settings come back with their connect timeout
cut to whole milliseconds, which changes no judgement on them, and a document of which sections and
keys are removed holds the settings with their defaults in exactly those places
(`written_settings_come_back`).  Each section is taken up key by key, so a key counts by itself,
whatever else is kept (`takeSection_kept`).
-/
import GatewayLogin.Proofs.Toml.Selection
import GatewayLogin.Settings.Document
import Mathlib.Algebra.Group.Nat.Defs

namespace GatewayLogin

open Toml (Scalar Section Value)

/-- The settings of which some keys are kept.  All others take their defaults. -/
def ClientSettings.keepOnly (keeps : String → Bool) (s : ClientSettings) : ClientSettings :=
  let defaults : ClientSettings := {}
  { serverUrl := if keeps "server_url" then s.serverUrl else defaults.serverUrl
    connectTimeout := if keeps "connect_timeout" then s.connectTimeout else defaults.connectTimeout
    wrapInEnvelope := if keeps "wrap_in_envelope" then s.wrapInEnvelope else defaults.wrapInEnvelope
    signInCommand := if keeps "sign_in_command" then s.signInCommand else defaults.signInCommand }

def TransportSettings.keepOnly (keeps : String → Bool) (s : TransportSettings) :
    TransportSettings :=
  let defaults : TransportSettings := {}
  { maxFrameSize := if keeps "max_frame_size" then s.maxFrameSize else defaults.maxFrameSize
    outboundQueue := if keeps "outbound_queue" then s.outboundQueue else defaults.outboundQueue }

def LoggingSettings.keepOnly (keeps : String → Bool) (s : LoggingSettings) : LoggingSettings :=
  let defaults : LoggingSettings := {}
  { appName := if keeps "app_name" then s.appName else defaults.appName
    logLevel := if keeps "log_level" then s.logLevel else defaults.logLevel
    logToConsole := if keeps "log_to_console" then s.logToConsole else defaults.logToConsole
    jsonFormat := if keeps "json_format" then s.jsonFormat else defaults.jsonFormat }

/-- The settings of which some keys of some sections are kept. -/
def Settings.keepOnly (keeps : (name key : String) → Bool) (s : Settings) : Settings where
  client := s.client.keepOnly (keeps "client")
  transport := s.transport.keepOnly (keeps "transport")
  logging := s.logging.keepOnly (keeps "logging")

/-- Entries of which some are kept are taken up one by one: the first changes its own setting if it
is kept, and the others come after it in either case. -/
theorem takeSection_kept {α : Type} (set : α → α) {keys : List (SettingKey α)} {k : SettingKey α}
    {key : String} {value : Value} (hfind : (keys.find? fun k => k.key == key) = some k)
    (htake : ∀ settings, k.take value settings = .ok (set settings)) (kept : String → Bool)
    (entries : Toml.Entries) (settings : α) :
    takeSection keys (.table (((key, value) :: entries).filter fun e => kept e.1)) settings
      = takeSection keys (.table (entries.filter fun e => kept e.1))
          (if kept key then set settings else settings) := by
  cases hkept : kept key with
  | false => simp [hkept]
  | true =>
    simp only [List.filter_cons, hkept, if_true, takeSection, List.foldlM_cons, hfind, htake]
    rfl

theorem SettingKey.number_take {α : Type} {limit n : Nat} (h : n < limit) (key : String)
    (set : Nat → α → α) (settings : α) :
    (SettingKey.number key limit set).take (.scalar (.integer n)) settings
      = .ok (set n settings) := by
  simp [SettingKey.number, h]

theorem SettingKey.level_take {α : Type} (level : LogLevel) (key : String)
    (set : LogLevel → α → α) (settings : α) :
    (SettingKey.level key set).take (.scalar (.text level.name)) settings
      = .ok (set level settings) := by
  have hname : LogLevel.ofText? level.name = some level := by
    cases level <;> decide +kernel
  simp [SettingKey.level, hname]

namespace Settings

/-- The settings with the connect timeout cut to whole milliseconds. -/
def rounded (s : Settings) : Settings :=
  { s with client.connectTimeout := .ofMilliseconds s.client.connectTimeout.milliseconds }

theorem rounded_milliseconds (s : Settings) :
    s.rounded.client.connectTimeout.milliseconds = s.client.connectTimeout.milliseconds := by
  simp [rounded, Duration.milliseconds, Duration.ofMilliseconds]

/-- Both bounds of the connect timeout are judged alike. -/
theorem rounded_problems (s : Settings) : s.rounded.problems = s.problems := by
  have hseconds : s.rounded.client.connectTimeout.seconds = s.client.connectTimeout.seconds := by
    simp only [rounded, Duration.seconds, Duration.ofMilliseconds, Duration.milliseconds]
    omega
  have htimeout : s.rounded.client.timeoutProblem? = s.client.timeoutProblem? := by
    rw [ClientSettings.timeoutProblem?, rounded_milliseconds, hseconds,
      ClientSettings.timeoutProblem?]
  simp only [problems, ClientSettings.problems, htimeout]
  rfl

/-- Some number of the settings exceeds the integers of a document. -/
def Overlong (s : Settings) : Prop :=
  2 ^ 63 - 1 < s.client.connectTimeout.milliseconds ∨
    2 ^ 63 - 1 < s.transport.maxFrameSize.toNat ∨ 2 ^ 63 - 1 < s.transport.outboundQueue.toNat

theorem sections_fit_iff (s : Settings) :
    (∀ part ∈ s.sections, part.fits = true) ↔ ¬ s.Overlong := by
  have hlimit : (Toml.integerLimit : Int) = 2 ^ 63 := by decide
  have hnatural : ∀ n : Nat, (Scalar.integer n).fits = decide (n < 2 ^ 63) := by
    intro n
    rw [Bool.eq_iff_iff]
    simp only [Scalar.fits, hlimit, Bool.and_eq_true, decide_eq_true_eq]
    omega
  have htext : ∀ text, (Scalar.text text).fits = true := fun _ => rfl
  have hboolean : ∀ b, (Scalar.boolean b).fits = true := fun _ => rfl
  have hcommand := s.client.signInCommand.toNat_lt
  have htimeout : s.client.timeoutMilliseconds < 2 ^ 63 ↔
      s.client.connectTimeout.milliseconds < 2 ^ 63 := by
    simp only [ClientSettings.timeoutMilliseconds, UInt64.size]
    omega
  simp only [sections, Section.fits, List.forall_mem_cons, List.all_cons, List.all_nil, hnatural,
    htext, hboolean, Bool.and_eq_true, decide_eq_true_eq, htimeout, Overlong]
  simp
  omega

/-- The sections of settings have names and keys of their own. -/
theorem sections_tidy (s : Settings) : Toml.Tidy s.sections where
  names_nodup := by
    simp [sections]
  names_bare := by
    simp only [sections, List.forall_mem_cons]
    refine ⟨by decide, by decide, by decide, by simp⟩
  keys_nodup := by
    simp [sections]
  keys_bare := by
    simp only [sections, List.forall_mem_cons]
    simp only [List.not_mem_nil, false_implies, implies_true, and_true]
    decide

theorem client_kept {s : ClientSettings} (h : ¬ 2 ^ 63 - 1 < s.connectTimeout.milliseconds)
    (kept : String → Bool) :
    takeSection ClientSettings.keys (.table ([
      ("server_url", .scalar (.text s.serverUrl)),
      ("connect_timeout", .scalar (.integer s.timeoutMilliseconds)),
      ("wrap_in_envelope", .scalar (.boolean s.wrapInEnvelope)),
      ("sign_in_command", .scalar (.integer s.signInCommand.toNat))].filter fun e => kept e.1)) {}
    = .ok (ClientSettings.keepOnly kept
      { s with connectTimeout := .ofMilliseconds s.connectTimeout.milliseconds }) := by
  have htimeout : s.timeoutMilliseconds = s.connectTimeout.milliseconds :=
    Nat.min_eq_left (by simp only [UInt64.size]; omega)
  rw [takeSection_kept (fun c : ClientSettings => { c with serverUrl := s.serverUrl }) rfl
      fun _ => rfl,
    takeSection_kept (fun c : ClientSettings =>
        { c with connectTimeout := .ofMilliseconds s.timeoutMilliseconds }) rfl
      (SettingKey.number_take (by rw [htimeout]; simp only [UInt64.size]; omega) _ _),
    takeSection_kept (fun c : ClientSettings => { c with wrapInEnvelope := s.wrapInEnvelope }) rfl
      fun _ => rfl,
    takeSection_kept (fun c : ClientSettings =>
        { c with signInCommand := s.signInCommand.toNat.toUInt32 }) rfl
      (SettingKey.number_take s.signInCommand.toNat_lt _ _)]
  have hcommand : s.signInCommand.toNat.toUInt32 = s.signInCommand := UInt32.ofNat_toNat
  rw [htimeout, hcommand]
  simp only [takeSection, List.filter_nil, List.foldlM_nil, ClientSettings.keepOnly]
  cases kept "server_url" <;> cases kept "connect_timeout" <;> cases kept "wrap_in_envelope" <;>
    cases kept "sign_in_command" <;> rfl

theorem transport_kept (s : TransportSettings) (kept : String → Bool) :
    takeSection TransportSettings.keys (.table ([
      ("max_frame_size", .scalar (.integer s.maxFrameSize.toNat)),
      ("outbound_queue", .scalar (.integer s.outboundQueue.toNat))].filter fun e => kept e.1)) {}
    = .ok (s.keepOnly kept) := by
  rw [takeSection_kept (fun c : TransportSettings =>
        { c with maxFrameSize := s.maxFrameSize.toNat.toUInt64 }) rfl
      (SettingKey.number_take s.maxFrameSize.toNat_lt _ _),
    takeSection_kept (fun c : TransportSettings =>
        { c with outboundQueue := s.outboundQueue.toNat.toUInt64 }) rfl
      (SettingKey.number_take s.outboundQueue.toNat_lt _ _)]
  have hsize : s.maxFrameSize.toNat.toUInt64 = s.maxFrameSize := UInt64.ofNat_toNat
  have hqueue : s.outboundQueue.toNat.toUInt64 = s.outboundQueue := UInt64.ofNat_toNat
  rw [hsize, hqueue]
  cases hs : kept "max_frame_size" <;> cases hq : kept "outbound_queue" <;>
    simp [takeSection, TransportSettings.keepOnly, hs, hq] <;> rfl

theorem logging_kept (s : LoggingSettings) (kept : String → Bool) :
    takeSection LoggingSettings.keys (.table ([
      ("app_name", .scalar (.text s.appName)),
      ("log_level", .scalar (.text s.logLevel.name)),
      ("log_to_console", .scalar (.boolean s.logToConsole)),
      ("json_format", .scalar (.boolean s.jsonFormat))].filter fun e => kept e.1)) {}
    = .ok (s.keepOnly kept) := by
  rw [takeSection_kept (fun c : LoggingSettings => { c with appName := s.appName }) rfl
      fun _ => rfl,
    takeSection_kept (fun c : LoggingSettings => { c with logLevel := s.logLevel }) rfl
      (SettingKey.level_take s.logLevel _ _),
    takeSection_kept (fun c : LoggingSettings => { c with logToConsole := s.logToConsole }) rfl
      fun _ => rfl,
    takeSection_kept (fun c : LoggingSettings => { c with jsonFormat := s.jsonFormat }) rfl
      fun _ => rfl]
  simp only [takeSection, List.filter_nil, List.foldlM_nil, LoggingSettings.keepOnly]
  cases kept "app_name" <;> cases kept "log_level" <;> cases kept "log_to_console" <;>
    cases kept "json_format" <;> rfl

/-- A shortened document holds the settings that are kept. -/
theorem ofEntries_apply {s : Settings} (h : ¬ s.Overlong) (selection : Toml.Selection) :
    ofEntries (Section.toEntries (selection.apply s.sections))
      = .ok (s.rounded.keepOnly selection.keeps) := by
  let keptClient := s.rounded.client.keepOnly (selection.keepsKey "client")
  let keptTransport := s.transport.keepOnly (selection.keepsKey "transport")
  let keptLogging := s.logging.keepOnly (selection.keepsKey "logging")
  have hclient := client_kept (fun htimeout => h (.inl htimeout)) (selection.keepsKey "client")
  have htransport := transport_kept s.transport (selection.keepsKey "transport")
  have hlogging := logging_kept s.logging (selection.keepsKey "logging")
  rw [Toml.Selection.toEntries_apply, ofEntries]
  simp only [sections, List.map_cons, List.map_nil]
  rw [takeSection_kept (fun c : Settings => { c with client := keptClient }) rfl
      fun _ => congrArg (Except.map _) hclient,
    takeSection_kept (fun c : Settings => { c with transport := keptTransport }) rfl
      fun _ => congrArg (Except.map _) htransport,
    takeSection_kept (fun c : Settings => { c with logging := keptLogging }) rfl
      fun _ => congrArg (Except.map _) hlogging]
  have hkeeps : ∀ name, selection.keeps name
      = if selection.keepsSection name then selection.keepsKey name else fun _ => false := by
    intro name
    funext key
    rw [Toml.Selection.keeps]
    cases selection.keepsSection name <;> rfl
  -- A section that is removed loses all its keys, and then all its settings are the defaults.
  simp only [takeSection, List.filter_nil, List.foldlM_nil, keepOnly, hkeeps]
  cases selection.keepsSection "client" <;> cases selection.keepsSection "transport" <;>
    cases selection.keepsSection "logging" <;> rfl

theorem rounded_sections (s : Settings) : s.rounded.sections = s.sections := by
  have htimeout : s.rounded.client.timeoutMilliseconds = s.client.timeoutMilliseconds := by
    rw [ClientSettings.timeoutMilliseconds, rounded_milliseconds,
      ClientSettings.timeoutMilliseconds]
  simp only [sections, htimeout]
  rfl

/-- Settings and the text that they are written as. -/
structure ComesBack (codec : Toml.Codec) (s : Settings) (text : String) : Prop where
  read : ofToml text codec = .ok s.rounded
  rewritten : s.rounded.toToml codec = .ok text
  judged : s.rounded.problems = s.problems
  /-- Whatever is removed, the rest is a document again. -/
  shortenable : ∀ selection : Toml.Selection, ∃ shorter,
    codec.write? (selection.apply s.sections) = some shorter ∧
      codec.Reads shorter (selection.apply s.sections)
  /-- What is removed takes its defaults, and nothing else changes. -/
  shortened : ∀ (selection : Toml.Selection) (shorter : String),
    codec.Reads shorter (selection.apply s.sections) →
      ofToml shorter codec = .ok (s.rounded.keepOnly selection.keeps)

theorem keepOnly_all (s : Settings) : s.keepOnly Toml.Selection.all.keeps = s :=
  rfl

theorem comesBack_of_write {codec : Toml.Codec} (hcodec : codec.Faithful) {s : Settings}
    (h : ¬ s.Overlong) : ∃ text, s.toToml codec = .ok text ∧ s.ComesBack codec text := by
  have hfits := (sections_fit_iff s).mpr h
  have hshortened : ∀ (selection : Toml.Selection) (shorter : String),
      codec.Reads shorter (selection.apply s.sections) →
        ofToml shorter codec = .ok (s.rounded.keepOnly selection.keeps) := by
    intro selection shorter hread
    rw [Toml.Codec.Reads] at hread
    rw [ofToml, hread]
    exact ofEntries_apply h selection
  obtain ⟨text, hwrite, hread⟩ := hcodec.keeps s.sections s.sections_tidy hfits
  have hwritten : s.toToml codec = .ok text := by
    rw [toToml, hwrite]
  refine ⟨text, hwritten, ?_, ?_, s.rounded_problems, ?_, hshortened⟩
  · have hall := hshortened .all text (by rwa [Toml.Selection.apply_all])
    rwa [keepOnly_all] at hall
  · rw [toToml, rounded_sections, hwrite]
  · intro selection
    exact hcodec.keeps _ (s.sections_tidy.apply selection) (Toml.Selection.fits_apply hfits)

/-- Settings can be written unless a number needs more than 63 bits, and then they come back. -/
theorem written_settings_come_back {codec : Toml.Codec} (hcodec : codec.Faithful) (s : Settings) :
    ((∃ fault, s.toToml codec = .error fault) ↔ s.Overlong) ∧
    (¬ s.Overlong → ∃ text, s.toToml codec = .ok text ∧ s.ComesBack codec text) := by
  refine ⟨⟨?_, ?_⟩, comesBack_of_write hcodec⟩
  · rintro ⟨fault, hfault⟩
    by_cases h : s.Overlong
    · exact h
    · obtain ⟨text, hwritten, -⟩ := comesBack_of_write hcodec h
      rw [hwritten] at hfault
      cases hfault
  · intro h
    have hwide : ¬ ∀ part ∈ s.sections, part.fits = true := fun hfits =>
      (sections_fit_iff s).mp hfits h
    have hrefused := hcodec.refuses s.sections (by simpa using hwide)
    exact ⟨unwritableSettings, by rw [toToml, hrefused]⟩

/-- Settings with marks and a line end in a name, and with a part of a millisecond. -/
def quotedName : Settings where
  client := { connectTimeout := .ofMicroseconds 2500700 }
  logging := { appName := "it's \x22\x22\x22\n\\ \x00", logLevel := .trace }

theorem quotedName_comes_back :
    Toml.Codec.plain.Faithful ∧ ¬ quotedName.Overlong ∧
      quotedName.rounded.client.connectTimeout = .ofMilliseconds 2500 ∧
      ∃ text, quotedName.toToml = .ok text ∧ quotedName.ComesBack .plain text := by
  have hshort : ¬ quotedName.Overlong := by
    simp only [Overlong]
    decide
  exact ⟨Toml.Codec.plain_faithful, hshort, rfl,
    (written_settings_come_back Toml.Codec.plain_faithful quotedName).2 hshort⟩

end Settings

end GatewayLogin
