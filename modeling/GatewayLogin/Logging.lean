/-
Installing the log: once for the whole program, and only if the console is logged to.
-/
import GatewayLogin.Settings.Basic

namespace GatewayLogin

/-- Whether these settings install a log, given whether one is installed already. -/
def LoggingSettings.installs (s : LoggingSettings) (installed : Bool) : Bool :=
  s.logToConsole && !installed

/-- What a log says first when it is installed. -/
def LoggingSettings.firstEntry (s : LoggingSettings) : LogEntry :=
  ⟨.info, "Logging initialized", [("app", s.appName)]⟩

end GatewayLogin
