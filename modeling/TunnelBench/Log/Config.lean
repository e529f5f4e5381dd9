import TunnelBench.Log.Filter

/-!
# Log configuration

What is logged follows from a filter, or else from a debug switch. Both can come from
the environment.
-/
namespace TunnelBench

/-- What to log. -/
structure LogConfig where
  /-- Whether to log details, if no filter says otherwise. -/
  debug : Bool := false
  /-- A filter in place of the usual ones. -/
  filter : Option String := none
  deriving DecidableEq, Repr

/-- The variables of the environment that matter to logging. -/
structure LogEnvironment where
  /-- The debug switch. -/
  debug : Option Bytes := none
  /-- The filter. -/
  filter : Option Bytes := none
  deriving DecidableEq, Repr

namespace LogConfig

/-- Logs details. -/
def verbose : LogConfig := { debug := true }

/-- Whether the value of a variable switches details on. -/
def switchesOn (value : Bytes) : Bool :=
  value == .ofString "1" || value.sameName (.ofString "true")

/-- The configuration that an environment asks for; a filter that is empty or no text counts as
missing. -/
def ofEnvironment (environment : LogEnvironment) : LogConfig where
  debug := (environment.debug.map switchesOn).getD false
  filter := do
    let text ← environment.filter.bind Utf8.decode?
    if text.isEmpty then none else some text

/-- The filter in use. -/
def directive (config : LogConfig) : String :=
  config.filter.getD (if config.debug then "tunfixture=debug" else "tunfixture=info")

/-- Checks the filter in use. -/
def check (config : LogConfig) : Except Failure Unit :=
  match LogFilter.check config.directive with
  | .ok () => .ok ()
  | .error error => .error (.config (.logFilter error))

/-- Installs the logger, which can be done once; the flag tells whether it was done before. -/
def install (config : LogConfig) (installed : Bool) : Except Failure Unit := do
  config.check
  if installed then .error (.config .loggerInstalled) else .ok ()

end LogConfig
end TunnelBench
