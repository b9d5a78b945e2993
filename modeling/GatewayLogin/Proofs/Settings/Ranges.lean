/-
Which settings are usable.

`Settings.InRange` gives every setting its range, and a problem is reported for each setting that
lies outside, in one order and once (`Settings.problems_eq_filterMap`).  There is one exception.
The most that a connect timeout may be is judged in whole seconds, so the fraction of a second above
it is passed over.  Main statement: `Settings.problems_name_settings_out_of_range`.
-/
import GatewayLogin.Settings.Basic
import Mathlib.Tactic.SplitIfs

namespace GatewayLogin

/-- The settings that have a range. -/
inductive Setting where
  | serverUrl
  | connectTimeout
  | signInCommand
  | maxFrameSize
  | outboundQueue
  | appName
deriving Repr, DecidableEq

/-- The settings section by section: client, transport, logging. -/
def Setting.all : List Setting :=
  [.serverUrl, .connectTimeout, .signInCommand, .maxFrameSize, .outboundQueue, .appName]

theorem Setting.mem_all (setting : Setting) : setting ∈ all := by
  cases setting <;> decide

/-- The setting that a problem is about. -/
def SettingProblem.setting : SettingProblem → Setting
  | .emptyUrl | .unknownScheme _ => .serverUrl
  | .timeoutTooShort | .timeoutTooLong => .connectTimeout
  | .zeroCommand => .signInCommand
  | .frameSizeTooSmall _ | .frameSizeTooLarge _ => .maxFrameSize
  | .emptyQueue => .outboundQueue
  | .emptyName | .nameTooLong _ => .appName

namespace Settings

/-- A setting lies in its range. -/
def InRange (s : Settings) : Setting → Prop
  | .serverUrl => ∃ scheme ∈ ["ws://", "wss://", "tcp://"],
      scheme.toList <+: s.client.serverUrl.toList
  | .connectTimeout =>
      (Duration.ofMilliseconds 100).nanoseconds ≤ s.client.connectTimeout.nanoseconds ∧
        s.client.connectTimeout.nanoseconds ≤ (Duration.ofSeconds 300).nanoseconds
  | .signInCommand => s.client.signInCommand ≠ 0 ∨ s.client.wrapInEnvelope = false
  | .maxFrameSize =>
      16 ≤ s.transport.maxFrameSize.toNat ∧ s.transport.maxFrameSize.toNat ≤ 16 * 1024 * 1024
  | .outboundQueue => 0 < s.transport.outboundQueue.toNat
  | .appName => 1 ≤ s.logging.appName.utf8ByteSize ∧ s.logging.appName.utf8ByteSize ≤ 64

instance (s : Settings) : DecidablePred s.InRange
  | .serverUrl => inferInstanceAs (Decidable (∃ scheme ∈ _, _))
  | .connectTimeout | .maxFrameSize | .appName => inferInstanceAs (Decidable (_ ∧ _))
  | .signInCommand => inferInstanceAs (Decidable (_ ∨ _))
  | .outboundQueue => inferInstanceAs (Decidable (_ < _))

/-- The connect timeout is above its range by less than a second. -/
def OverrunsPartSecond (s : Settings) : Prop :=
  (Duration.ofSeconds 300).nanoseconds < s.client.connectTimeout.nanoseconds ∧
    s.client.connectTimeout.nanoseconds < (Duration.ofSeconds 301).nanoseconds

/-- A setting is let pass: it lies in its range, or it is a connect timeout that is above it by less
than a second. -/
def LetsPass (s : Settings) (setting : Setting) : Prop :=
  s.InRange setting ∨ setting = .connectTimeout ∧ s.OverrunsPartSecond

instance (s : Settings) : Decidable s.OverrunsPartSecond :=
  inferInstanceAs (Decidable (_ ∧ _))

instance (s : Settings) : DecidablePred s.LetsPass :=
  fun setting => inferInstanceAs (Decidable (s.InRange setting ∨ _))

/-- The problem with a setting, if any. -/
def problem? (s : Settings) : Setting → Option SettingProblem
  | .serverUrl => s.client.urlProblem?
  | .connectTimeout => s.client.timeoutProblem?
  | .signInCommand => s.client.commandProblem?
  | .maxFrameSize => s.transport.frameSizeProblem?
  | .outboundQueue => s.transport.queueProblem?
  | .appName => s.logging.nameProblem?

theorem problems_eq_filterMap (s : Settings) : s.problems = Setting.all.filterMap s.problem? := by
  have hcons (setting : Setting) (rest : List Setting) :
      (setting :: rest).filterMap s.problem? =
        (s.problem? setting).toList ++ rest.filterMap s.problem? := by
    cases h : s.problem? setting <;> simp [h]
  simp only [Setting.all, hcons, List.filterMap_nil, List.append_nil, problems,
    ClientSettings.problems, TransportSettings.problems, LoggingSettings.problems,
    List.append_assoc]
  rfl

theorem setting_of_problem? {s : Settings} {setting : Setting} {problem : SettingProblem}
    (h : s.problem? setting = some problem) : problem.setting = setting := by
  cases setting <;>
    simp only [problem?, ClientSettings.urlProblem?, ClientSettings.timeoutProblem?,
      ClientSettings.commandProblem?, TransportSettings.frameSizeProblem?,
      TransportSettings.queueProblem?, LoggingSettings.nameProblem?] at h
  all_goals
    repeat' split at h
    all_goals cases h
    all_goals rfl

theorem urlProblem?_eq_none_iff (s : Settings) :
    s.client.urlProblem? = none ↔ s.InRange .serverUrl := by
  have hschemes : (urlSchemes.any fun scheme => beginsWith scheme s.client.serverUrl) = true ↔
      s.InRange .serverUrl := by
    simp only [List.any_eq_true, beginsWith, List.isPrefixOf_iff_prefix, InRange]
    rfl
  simp only [ClientSettings.urlProblem?, ← hschemes]
  by_cases hempty : s.client.serverUrl.isEmpty = true
  · have hnone : s.client.serverUrl = "" := String.isEmpty_iff.mp hempty
    simp [hnone, urlSchemes, beginsWith]
  · rw [if_neg hempty]
    split_ifs with hany <;> simp [hany]

/-- Of two bounds neither is overstepped. -/
theorem bounds_eq_none_iff {below above : Prop} [Decidable below] [Decidable above]
    {low high : SettingProblem} :
    (if below then some low else if above then some high else none) = none ↔
      ¬ below ∧ ¬ above := by
  split_ifs <;> simp [*]

theorem timeoutProblem?_eq_none_iff (s : Settings) :
    s.client.timeoutProblem? = none ↔ s.InRange .connectTimeout ∨ s.OverrunsPartSecond := by
  rw [ClientSettings.timeoutProblem?, bounds_eq_none_iff]
  simp only [InRange, OverrunsPartSecond, Duration.milliseconds, Duration.seconds,
    Duration.ofMilliseconds, Duration.ofSeconds]
  omega

theorem commandProblem?_eq_none_iff (s : Settings) :
    s.client.commandProblem? = none ↔ s.InRange .signInCommand := by
  simp only [ClientSettings.commandProblem?, InRange]
  cases s.client.wrapInEnvelope <;> simp

theorem frameSizeProblem?_eq_none_iff (s : Settings) :
    s.transport.frameSizeProblem? = none ↔ s.InRange .maxFrameSize := by
  rw [TransportSettings.frameSizeProblem?, bounds_eq_none_iff]
  have hleast : (16 : UInt64).toNat = 16 := rfl
  have hmost : (16777216 : UInt64).toNat = 16 * 1024 * 1024 := rfl
  simp only [InRange, UInt64.lt_iff_toNat_lt, hleast, hmost]
  omega

theorem queueProblem?_eq_none_iff (s : Settings) :
    s.transport.queueProblem? = none ↔ s.InRange .outboundQueue := by
  have hzero : s.transport.outboundQueue = 0 ↔ s.transport.outboundQueue.toNat = 0 :=
    UInt64.toNat_inj.symm
  simp only [TransportSettings.queueProblem?, InRange, hzero]
  split_ifs with hempty
  · simp [hempty]
  · simpa using Nat.pos_of_ne_zero hempty

theorem nameProblem?_eq_none_iff (s : Settings) :
    s.logging.nameProblem? = none ↔ s.InRange .appName := by
  have hempty : s.logging.appName.isEmpty = true ↔ s.logging.appName.utf8ByteSize = 0 := by
    simp [String.isEmpty]
  rw [LoggingSettings.nameProblem?, bounds_eq_none_iff, hempty]
  simp only [InRange]
  omega

theorem problem?_eq_none_iff (s : Settings) (setting : Setting) :
    s.problem? setting = none ↔ s.LetsPass setting := by
  cases setting with
  | connectTimeout => simpa [problem?, LetsPass] using s.timeoutProblem?_eq_none_iff
  | serverUrl => simpa [problem?, LetsPass] using s.urlProblem?_eq_none_iff
  | signInCommand => simpa [problem?, LetsPass] using s.commandProblem?_eq_none_iff
  | maxFrameSize => simpa [problem?, LetsPass] using s.frameSizeProblem?_eq_none_iff
  | outboundQueue => simpa [problem?, LetsPass] using s.queueProblem?_eq_none_iff
  | appName => simpa [problem?, LetsPass] using s.nameProblem?_eq_none_iff

theorem map_setting_filterMap_problem? (s : Settings) (settings : List Setting) :
    (settings.filterMap s.problem?).map SettingProblem.setting =
      settings.filter fun setting => ¬ s.LetsPass setting := by
  induction settings with
  | nil => rfl
  | cons setting rest ih =>
      cases hproblem : s.problem? setting with
      | none =>
          have hpass : s.LetsPass setting := (s.problem?_eq_none_iff setting).mp hproblem
          rw [List.filterMap_cons_none hproblem, ih, List.filter_cons_of_neg (by simpa using hpass)]
      | some problem =>
          have hstop : ¬ s.LetsPass setting := by
            rw [← s.problem?_eq_none_iff, hproblem]
            exact Option.some_ne_none problem
          rw [List.filterMap_cons_some hproblem, List.map_cons, setting_of_problem? hproblem, ih,
            List.filter_cons_of_pos (by simpa using hstop)]

theorem validate_eq_ok_iff (s : Settings) : s.validate = .ok () ↔ s.problems = [] := by
  simp only [validate]
  split <;> simp_all

/-- Settings are refused exactly if there are problems, and there is one for each setting that is
not let pass, in the order of the sections. -/
theorem problems_name_settings_out_of_range (s : Settings) :
    (s.validate = .ok () ↔ s.problems = []) ∧
    (s.problems = [] ↔ ∀ setting, s.LetsPass setting) ∧
    s.problems.map SettingProblem.setting =
      Setting.all.filter fun setting => ¬ s.LetsPass setting := by
  have hnames : s.problems.map SettingProblem.setting =
      Setting.all.filter fun setting => ¬ s.LetsPass setting := by
    rw [problems_eq_filterMap, map_setting_filterMap_problem?]
  refine ⟨s.validate_eq_ok_iff, ?_, hnames⟩
  rw [← List.map_eq_nil_iff (f := SettingProblem.setting), hnames, List.filter_eq_nil_iff]
  constructor
  · intro hpass setting
    simpa using hpass setting setting.mem_all
  · intro hpass setting _
    simpa using hpass setting

/-- Settings under which a connection may take half a second more than the range allows. -/
def longPatience : Settings := { client := { connectTimeout := .ofMilliseconds 300500 } }

theorem timeout_past_range_passes :
    ¬ longPatience.InRange .connectTimeout ∧ longPatience.problems = [] ∧
      longPatience.validate = .ok () := by
  refine ⟨by decide +kernel, by decide +kernel, ?_⟩
  rw [validate_eq_ok_iff]
  decide +kernel

end Settings

end GatewayLogin
