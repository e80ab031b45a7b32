import Testbed.Files.Path
/-!
# The service under test and its bootstrap tool
-/

namespace Testbed

/-- Where the service comes from and how it is started. -/
structure ServiceParams where
  name : String
  image : String
  mainClass : String
  /-- The local path of the artifact that is copied onto remote hosts. -/
  artifact : String
  deriving DecidableEq

namespace ServiceParams

def default : ServiceParams where
  name := "corfu"
  image := "corfu-server:latest"
  mainClass := "org.corfudb.infrastructure.CorfuServer"
  artifact := "./target/corfu/infrastructure-shaded.jar"

/-- The file name of the artifact on remote hosts. -/
def artifactFile (s : ServiceParams) : String :=
  (Path.fileName? s.artifact).getD (s.name ++ "-server.jar")

end ServiceParams

/-- How the first layout is submitted to freshly started nodes. -/
structure BootstrapParams where
  /-- The command to run; the path of the layout file becomes its last argument. -/
  command : List String
  workDir : String
  deriving DecidableEq

/-- The directory for temporary files. Where a machine keeps these is a matter of its environment;
here it is where they are kept as long as nobody chose another place. -/
def tempDir : String := "/tmp"

/-- Layouts are put below the directory for temporary files. -/
def BootstrapParams.default : BootstrapParams where
  command := ["corfu_bootstrap_cluster", "-l"]
  workDir := tempDir ++ "/universe/layouts"

end Testbed
