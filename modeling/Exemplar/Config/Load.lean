import Exemplar.Config.Arguments
import Exemplar.Config.Environment
import Exemplar.Config.Files

namespace Exemplar

/-- What settings are loaded from besides the command line. -/
structure Surroundings where
  environment : Environment
  files : FileTree

namespace Surroundings

def configPathVariable : String := "SPROUT_CONFIG_PATH"

/-- The layer of files. A file that an argument names takes the place of all others. -/
def fileLayer (s : Surroundings) (a : Arguments) : Except ConfigError Layer :=
  s.files.layer a.configPath (s.environment.lookup configPathVariable)

end Surroundings

namespace Config

def ofArguments (s : Surroundings) (args : List String) : Except ConfigError Config :=
  match Arguments.read? args with
  | none => .error .load
  | some a =>
    match s.fileLayer a with
    | .error e => .error e
    | .ok file => (a.layer.above (s.environment.layer.above (file.above .defaults))).toConfig

/-- The settings without a command line. -/
def ofSurroundings (s : Surroundings) : Except ConfigError Config := ofArguments s []

end Config

end Exemplar
