/-
Settings from environment variables.

Four variables overlay the defaults.  Blanks around a value do not count, save for the URL, and the
first unusable value in the order URL, timeout, envelope, level is reported with its text.
-/
import GatewayLogin.Settings.Basic
import GatewayLogin.Settings.Level
import GatewayLogin.Text.Blank
import GatewayLogin.Text.Quoted

namespace GatewayLogin

/-- A fault that names a variable, its text, and what is wrong with it. -/
def unusableVariable (name text problem : String) : Fault :=
  .configuration (name ++ "=" ++ Text.quoted text ++ ": " ++ problem)

/-- A 64-bit number, blanks around it dropped. -/
def readNumber (text : String) : Except String Nat :=
  match Text.parseNumeral UInt64.size (Text.trim text) with
  | .ok n => .ok n
  | .error problem => .error problem.message

/-- The words `true` and `false`, blanks around them dropped. -/
def readSwitch (text : String) : Except String Bool :=
  let word := Text.trim text
  if word = "true" then .ok true
  else if word = "false" then .ok false
  else .error "provided string was not `true` or `false`"

/-- A log level, blanks around it dropped. -/
def readLevel (text : String) : Except String LogLevel :=
  match LogLevel.ofText? (Text.trim text) with
  | some level => .ok level
  | none => .error LogLevel.expectation

/-- Let a variable, if there is one, change some settings. -/
def overlay {α β : Type} (lookup : String → Option String) (name : String)
    (read : String → Except String β) (set : β → α → α) (settings : α) : Except Fault α :=
  match lookup name with
  | none => .ok settings
  | some text =>
      match read text with
      | .ok value => .ok (set value settings)
      | .error problem => .error (unusableVariable name text problem)

/-- The defaults overlaid with environment variables. -/
def Settings.ofEnvironment (lookup : String → Option String) : Except Fault Settings := do
  let client : ClientSettings := {}
  let client ← overlay lookup "IM_SIGNIN_SERVER_URL" .ok
    (fun url s => { s with serverUrl := url }) client
  let client ← overlay lookup "IM_SIGNIN_CONNECT_TIMEOUT_MS" readNumber
    (fun n (s : ClientSettings) => { s with connectTimeout := .ofMilliseconds n }) client
  let client ← overlay lookup "IM_SIGNIN_WRAP_ENVELOPE" readSwitch
    (fun wrap (s : ClientSettings) => { s with wrapInEnvelope := wrap }) client
  let logging : LoggingSettings := {}
  let logging ← overlay lookup "IM_SIGNIN_LOG_LEVEL" readLevel
    (fun level s => { s with logLevel := level }) logging
  return { client, logging }

end GatewayLogin
