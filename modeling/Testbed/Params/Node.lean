import Testbed.Error
import Testbed.Files.Path
import Testbed.Text.Blank
/-!
# What a node is

A node is identified by its port: name, endpoint and directories derive from it. `commandLine` is
what the server process is started with.
-/

namespace Testbed

inductive Mode where
  | single
  | cluster
  deriving DecidableEq, Repr

inductive Persistence where
  | disk
  | memory
  deriving DecidableEq, Repr

inductive LogLevel where
  | error
  | warn
  | info
  | debug
  | trace
  deriving DecidableEq, Repr

def LogLevel.text : LogLevel → String
  | .error => "ERROR"
  | .warn => "WARN"
  | .info => "INFO"
  | .debug => "DEBUG"
  | .trace => "TRACE"

structure NodeParams where
  port : UInt16
  mode : Mode
  persistence : Persistence
  logLevel : LogLevel
  /-- Where the server keeps its data if it persists to disk. -/
  logDir : String
  /-- The alias of the host the node is placed on; containers have none. -/
  host : Option String
  deriving DecidableEq

namespace NodeParams

def defaultMode : Mode := .cluster

def defaultPersistence : Persistence := .disk

def defaultLogLevel : LogLevel := .info

def defaultLogDir : String := "/tmp/"

/-- A clustered node that persists to disk. -/
def ofPort (port : UInt16) : NodeParams :=
  ⟨port, defaultMode, defaultPersistence, defaultLogLevel, defaultLogDir, none⟩

def onHost (p : NodeParams) (host : String) : NodeParams := { p with host := some host }

def portText (p : NodeParams) : String := toString p.port.toNat

def name (p : NodeParams) : String := "node" ++ p.portText

def endpoint (p : NodeParams) : String := p.name ++ ":" ++ p.portText

/-- The part of the command line that says where data is kept. -/
def storageFlags (p : NodeParams) : Except Error String :=
  match p.persistence with
  | .memory => .ok " -m"
  | .disk =>
    if Text.allBlank p.logDir then
      .error (.config ("Invalid log dir in disk persistence mode for " ++ p.name))
    else .ok (" -l " ++ p.logDir)

def modeFlag (p : NodeParams) : String :=
  match p.mode with
  | .single => " -s"
  | .cluster => ""

/-- The arguments of the server process. -/
def commandLine (p : NodeParams) : Except Error String :=
  p.storageFlags.map fun storage =>
    "-a 0.0.0.0" ++ storage ++ p.modeFlag ++ " -d " ++ p.logLevel.text ++ " " ++ p.portText

/-- The local directory that the logs of the node are collected into. -/
def serverLogDir (p : NodeParams) (root service stamp : String) : String :=
  Path.join (Path.join root service) (p.name ++ "_" ++ stamp)

end NodeParams

end Testbed
