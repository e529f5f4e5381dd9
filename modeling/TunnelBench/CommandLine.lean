import TunnelBench.Handler.Dispatcher
import TunnelBench.Library.Build
import TunnelBench.Log.Config
import TunnelBench.Server.Config

/-!
# The command line

Arguments choose between an echo server and a file server and say where it listens.
Before anything else the environment configures logging. A start ends with a server
that is ready to run, with the usage, or with a failure and its causes.
-/
namespace TunnelBench.CommandLine

/-- The name of the program in its usage. -/
def program : String := "tunfixture"

/-- The port without a proper port argument. -/
def defaultPort : Nat := 8080

/-- The usage of the program. -/
def usage : String :=
  "Usage: " ++ program ++ " echo [port] [http|raw]\n" ++
  "       " ++ program ++ " serve <dir> [port]\n" ++
  "  echo:  Echo HTTP request bodies, or raw bytes (default: http)\n" ++
  "  serve: Serve every file under <dir> from memory\n" ++
  "  port:  Port to bind to on 127.0.0.1 (default: " ++ toString defaultPort ++ ")\n" ++
  "\n" ++
  "Examples:\n" ++
  "  " ++ program ++ " echo 8080 raw         # Copy bytes back on port 8080\n" ++
  "  " ++ program ++ " serve ./data 9000     # /data/foo/bar.zip serves ./data/foo/bar.zip\n" ++
  "\n" ++
  "Set TUNFIXTURE_DEBUG=1 for debug logging.\n"

/-- What the arguments ask for. -/
inductive Command where
  | echo (config : ServerConfig)
  | serve (directory : String) (config : ServerConfig)
  | help
  deriving DecidableEq, Repr

/-- The address that a port argument stands for; an argument that is no port stands for the
default. -/
def addressOf (port : Option String) : Address :=
  ⟨(port.bind fun text => Decimal.read? 65536 text.toList).getD defaultPort⟩

/-- The protocol that a tag argument stands for. -/
def protocolOf (tag : Option String) : Protocol := (tag.map Protocol.ofTag).getD .http

/-- Reads the arguments; the case of the command does not count. -/
def Command.ofArguments (arguments : List String) : Command :=
  let name := Bytes.ofString (arguments[0]?.getD "echo")
  if name.sameName (.ofString "echo") then
    .echo { address := addressOf arguments[1]?, protocol := protocolOf arguments[2]? }
  else if name.sameName (.ofString "serve") then
    match arguments[1]? with
    | some directory => .serve directory { address := addressOf arguments[2]? }
    | none => .help
  else .help

/-- How a start ends. -/
inductive Start where
  /-- An echo server is ready. -/
  | echo (config : ServerConfig)
  /-- A file server is ready. -/
  | files (library : Library) (config : ServerConfig)
  /-- The arguments ask for nothing that the program does. -/
  | usage
  /-- The start failed; the causes go from the outermost to the deepest. -/
  | failed (causes : List String)

/-- A failure with what was being done, and with its deeper causes. -/
def report (doing : String) (failure : Failure) : Start :=
  .failed (doing :: failure.message :: failure.causes)

/-- Starts what the arguments ask for. -/
def start (environment : LogEnvironment) (tree : FileTree) (arguments : List String) : Start :=
  match (LogConfig.ofEnvironment environment).install false with
  | .error failure => report "Failed to initialize logging" failure
  | .ok () =>
    match Command.ofArguments arguments with
    | .help => .usage
    | .echo config => .echo config
    | .serve directory config =>
      match Library.build tree (.ofString directory) with
      | .ok library => .files library config
      | .error failure => report ("Failed to load directory " ++ directory) failure

/-- The server that a start leads to. -/
def Start.server? : Start → Option (ServerConfig × Handler)
  | .echo config => some (config, Dispatcher.echo.toHandler)
  | .files library config => some (config, .files library)
  | .usage => none
  | .failed _ => none

end TunnelBench.CommandLine
