/-
Settings: what can be configured, with defaults, and which values are usable.

`Settings.problems` lists one problem for every setting outside its range, client settings first,
then transport, then logging.
-/
import GatewayLogin.Duration
import GatewayLogin.Fault
import GatewayLogin.LogEntry

namespace GatewayLogin

structure ClientSettings where
  /-- Where the gateway is. -/
  serverUrl : String := "ws://127.0.0.1:8080/ws"
  /-- How long opening a connection may take. -/
  connectTimeout : Duration := .ofSeconds 5
  /-- Whether the sign-in request is put into a packet. -/
  wrapInEnvelope : Bool := true
  /-- The command of that packet. -/
  signInCommand : UInt32 := 1
deriving Repr, DecidableEq, Inhabited

structure TransportSettings where
  /-- The longest frame in either direction, in bytes. -/
  maxFrameSize : UInt64 := 1048576
  /-- How many frames may wait to be written. -/
  outboundQueue : UInt64 := 32
deriving Repr, DecidableEq, Inhabited

structure LoggingSettings where
  /-- The name under which entries are logged. -/
  appName : String := "im-signin"
  /-- The least weighty level that is logged. -/
  logLevel : LogLevel := .info
  /-- Whether the console is logged to. -/
  logToConsole : Bool := true
  /-- Whether entries are written as data. -/
  jsonFormat : Bool := false
deriving Repr, DecidableEq, Inhabited

structure Settings where
  client : ClientSettings := {}
  transport : TransportSettings := {}
  logging : LoggingSettings := {}
deriving Repr, DecidableEq, Inhabited

inductive SettingProblem where
  | emptyUrl
  | unknownScheme (url : String)
  | timeoutTooShort
  | timeoutTooLong
  | zeroCommand
  | frameSizeTooSmall (size : UInt64)
  | frameSizeTooLarge (size : UInt64)
  | emptyQueue
  | emptyName
  | nameTooLong (bytes : Nat)
deriving Repr, DecidableEq

def SettingProblem.message : SettingProblem → String
  | .emptyUrl => "Server URL cannot be empty"
  | .unknownScheme url =>
      "Invalid server URL: '" ++ url ++ "' (expected ws://, wss:// or tcp://)"
  | .timeoutTooShort => "Connect timeout too short (minimum: 100ms)"
  | .timeoutTooLong => "Connect timeout too long (maximum: 300s)"
  | .zeroCommand => "Sign-in command must be non-zero when wrap_in_envelope is enabled"
  | .frameSizeTooSmall size =>
      "Max frame size too small: " ++ toString size.toNat ++ " bytes (minimum: 16)"
  | .frameSizeTooLarge size =>
      "Max frame size too large: " ++ toString size.toNat ++ " bytes (maximum: 16 MiB)"
  | .emptyQueue => "Outbound queue must be greater than 0"
  | .emptyName => "Application name cannot be empty"
  | .nameTooLong bytes =>
      "Application name too long: " ++ toString bytes ++ " characters (maximum: 64)"

def beginsWith (start text : String) : Bool :=
  start.toList.isPrefixOf text.toList

def urlSchemes : List String := ["ws://", "wss://", "tcp://"]

/-- The problem with the server URL, if any. -/
def ClientSettings.urlProblem? (s : ClientSettings) : Option SettingProblem :=
  if s.serverUrl.isEmpty then some .emptyUrl
  else if urlSchemes.any fun scheme => beginsWith scheme s.serverUrl then none
  else some (.unknownScheme s.serverUrl)

/-- The problem with the connect timeout, if any.  The lower bound is judged in whole milliseconds,
the upper one in whole seconds. -/
def ClientSettings.timeoutProblem? (s : ClientSettings) : Option SettingProblem :=
  if s.connectTimeout.milliseconds < 100 then some .timeoutTooShort
  else if 300 < s.connectTimeout.seconds then some .timeoutTooLong
  else none

/-- The problem with the sign-in command, if any. -/
def ClientSettings.commandProblem? (s : ClientSettings) : Option SettingProblem :=
  if s.wrapInEnvelope && s.signInCommand == 0 then some .zeroCommand else none

def ClientSettings.problems (s : ClientSettings) : List SettingProblem :=
  s.urlProblem?.toList ++ s.timeoutProblem?.toList ++ s.commandProblem?.toList

/-- The problem with the frame size, if any. -/
def TransportSettings.frameSizeProblem? (s : TransportSettings) : Option SettingProblem :=
  if s.maxFrameSize < 16 then some (.frameSizeTooSmall s.maxFrameSize)
  else if 16777216 < s.maxFrameSize then some (.frameSizeTooLarge s.maxFrameSize)
  else none

def TransportSettings.queueProblem? (s : TransportSettings) : Option SettingProblem :=
  if s.outboundQueue = 0 then some .emptyQueue else none

/-- The problems with the transport settings. -/
def TransportSettings.problems (s : TransportSettings) : List SettingProblem :=
  s.frameSizeProblem?.toList ++ s.queueProblem?.toList

/-- The problem with the name, if any.  Its length counts bytes. -/
def LoggingSettings.nameProblem? (s : LoggingSettings) : Option SettingProblem :=
  if s.appName.isEmpty then some .emptyName
  else if 64 < s.appName.utf8ByteSize then some (.nameTooLong s.appName.utf8ByteSize)
  else none

/-- The problems with the logging settings. -/
def LoggingSettings.problems (s : LoggingSettings) : List SettingProblem :=
  s.nameProblem?.toList

/-- All problems, in the order of the sections. -/
def Settings.problems (s : Settings) : List SettingProblem :=
  s.client.problems ++ s.transport.problems ++ s.logging.problems

/-- Refuse settings that have problems, naming all of them. -/
def Settings.validate (s : Settings) : Except Fault Unit :=
  match s.problems with
  | [] => .ok ()
  | problems =>
      .error (.configuration (toString problems.length ++ " invalid setting(s): "
        ++ String.intercalate "; " (problems.map SettingProblem.message)))

example : ({} : Settings).problems = [] := by decide +kernel

end GatewayLogin
