import QualifierBindings.FileTree

/-! The configuration file of a project: the one that the environment names, or the
first of two usual names in the root of the project.
-/

namespace QualifierBindings

/-- A project with the path of its root and the files below it. -/
structure Project where
  root : String
  tree : FileTree

namespace Project

/-- The names under which a project's configuration is looked for, in order. -/
def usualNames : List String := ["qualpoly.toml", ".qualpoly.toml"]

def isAbsolute (path : String) : Bool :=
  path.toList.head? = some '/'

def join (project : Project) (path : String) : String :=
  if isAbsolute path then path else project.root ++ "/" ++ path

/-- The path of the configuration, relative to the root unless it is absolute. The
path that the environment names is taken without looking whether it exists. -/
def discover (project : Project) (environment : Option String) : Option String :=
  match environment with
  | some path => some path
  | none => usualNames.find? (fun name => project.tree.isFile [name])

def readFile (project : Project) (path : String) : Except ConfigError String :=
  match project.tree.read (if isAbsolute path then .outside else .inside []) path with
  | .ok text => .ok text
  | .error fault => .error (.unreadable (project.join path) fault)

section Reader

variable (read? : String → Option (List (String × Toml.Value)))

def loadFileBy (project : Project) (path : String) : Except ConfigError Config := do
  let text ← project.readFile path
  Config.loadBy read? text

/-- Loading the configuration in a file together with its diagnostics, given how documents are
read. -/
def loadFileWithDiagnosticsBy (project : Project) (path : String)
    : Except ConfigError (Config × Diagnostics) := do
  let text ← project.readFile path
  Config.loadWithDiagnosticsBy read? text

/-- The configuration of the project and the path of its file. Without a file all is
left at its default. -/
def loadBy (project : Project) (environment : Option String)
    : Except ConfigError (Config × Option String) :=
  match project.discover environment with
  | none => .ok ({}, none)
  | some path => (project.loadFileBy read? path).map (fun config => (config, some path))

end Reader

def loadFile : Project → String → Except ConfigError Config :=
  loadFileBy Toml.parse?

def loadFileWithDiagnostics : Project → String → Except ConfigError (Config × Diagnostics) :=
  loadFileWithDiagnosticsBy Toml.parse?

def load : Project → Option String → Except ConfigError (Config × Option String) :=
  loadBy Toml.parse?

end Project

end QualifierBindings
