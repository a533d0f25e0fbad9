import JavaBuild.Module.Artifact
import JavaBuild.Digest.Sha256

/-!
# Dependencies

A dependency is an artifact that the build system resolved: its coordinates (group, artifact,
version), its scope, and the path of the jar or class directory. The resolver may also say which
module the artifact holds; otherwise that is read from the artifact itself the first time it is
needed, and remembered by path for the rest of the build.

A stage of compilation sees the dependencies of some scopes, in resolution order: the main
compilation the `compile`, `compile-only` and `provided` scopes, the test compilation those and
`test` and `test-only`.

The identities of the dependencies (coordinates and scope) are what the change tracker compares
between builds. An artifact without version is identified by a digest of its content instead: the
bytes of a jar, or the names, sizes and times of the files of a class directory.
-/

namespace JavaBuild

/-- The scope of a dependency. -/
inductive Scope where
  | compile
  | compileOnly
  | provided
  | runtime
  | test
  | testOnly
  | testRuntime
deriving DecidableEq, Repr, Inhabited

/-- The name of a scope as the build system writes it. -/
def Scope.name : Scope → String
  | .compile => "compile"
  | .compileOnly => "compile-only"
  | .provided => "provided"
  | .runtime => "runtime"
  | .test => "test"
  | .testOnly => "test-only"
  | .testRuntime => "test-runtime"

/-- Every scope. -/
def Scope.all : List Scope := [.compile, .compileOnly, .provided, .runtime, .test, .testOnly, .testRuntime]

/-- The scope of a name. -/
def Scope.ofName? (s : String) : Option Scope := Scope.all.find? (·.name == s)

/-- A resolved artifact. -/
structure Dependency where
  group : String
  artifact : String
  version : String
  scope : Scope
  path : String
  moduleName : Option String := none
  descriptor : Option Descriptor := none
deriving Inhabited

namespace Dependency

/-- `group:artifact:version`. -/
def identity (d : Dependency) : String := s!"{d.group}:{d.artifact}:{d.version}"

/-- The dependency as messages show it: its identity and scope. -/
def text (d : Dependency) : String := s!"{d.identity} ({d.scope.name})"

/-- A dependency from its parts; the scope must be one of the known ones. -/
def make (group artifact version scope path : String) (moduleName : Option String := none)
    (descriptor : Option Descriptor := none) : Except String Dependency :=
  match Scope.ofName? scope with
  | some s => .ok { group, artifact, version, scope := s, path, moduleName, descriptor }
  | none => .error ("Unknown dependency scope '" ++ scope ++ s!"' for {group}:{artifact}:{version}")

end Dependency

/-- A stage of compilation. -/
inductive Stage where
  | main
  | test
deriving DecidableEq, Repr, Inhabited

/-- The scopes whose dependencies a stage sees. -/
def Stage.scopes : Stage → List Scope
  | .main => [.compile, .compileOnly, .provided]
  | .test => [.compile, .compileOnly, .provided, .test, .testOnly]

/-- The name of a stage. -/
def Stage.name : Stage → String
  | .main => "main"
  | .test => "test"

/-- The stage of a name, `main` or `test`. -/
def Stage.ofName (s : String) : Except Failure Stage :=
  if s == "main" then .ok .main else if s == "test" then .ok .test else .error (.unknownStage s)

/-- The dependencies of a build, the modules that are observable without them (those of the
JDK), and the modules read from artifacts so far, by path. -/
structure Resolution where
  dependencies : List Dependency := []
  systemModules : List String := []
  read : List (String × Option Descriptor) := []
deriving Inhabited

/-- A computation on the host that reads modules of artifacts at most once. -/
abbrev ResolveM := StateT Resolution HostM

namespace Resolution

/-- The dependencies a stage sees, in resolution order. -/
def forStage (r : Resolution) (stage : Stage) : List Dependency :=
  r.dependencies.filter fun d => stage.scopes.contains d.scope

/-- The module of a dependency: the one given, else the one read from its artifact (none when the
dependency has a module name but no descriptor). -/
def descriptor (d : Dependency) : ResolveM (Option Descriptor) := do
  if let some desc := d.descriptor then return some desc
  match (← get).read.lookup d.path with
  | some known => return known
  | none =>
    let found ← if d.moduleName.isNone then liftM (Module.describeArtifact d.path) else pure none
    modify fun r => { r with read := r.read ++ [(d.path, found)] }
    return found

/-- The module name of a dependency, or none when it is in the unnamed module. -/
def moduleName (d : Dependency) : ResolveM (Option String) := do
  if let some n := d.moduleName then return some n
  return (← descriptor d).map (·.name)

end Resolution

/-- The digest that identifies an artifact's content: of the bytes of a file, of the names,
sizes and times of the files of a directory, or `absent`. -/
def contentDigest (path : String) : HostM String := do
  if ← HostM.isFile path then
    return Sha256.hexDigest (← HostM.readBytes path)
  if ← HostM.isDir path then
    let mut lines := ""
    for rel in ← HostM.listFiles path do
      let full := Path.join path rel
      let size := (← HostM.readBytes full).size
      lines := lines ++ s!"{rel}:{size}:{← HostM.mtimeNanos full}\n"
    return Sha256.hexDigestOfText lines
  return "absent"

/-- The sorted identities `group:artifact:version:scope` of dependencies; a version
`unspecified` is replaced by `sha256-` and the start of the content digest. -/
def identities (deps : List Dependency) : HostM (List String) := do
  let ids ← deps.mapM fun d => do
    let version ← if d.version == "unspecified" then
        pure ("sha256-" ++ String.ofList ((← contentDigest d.path).toList.take 16))
      else pure d.version
    pure s!"{d.group}:{d.artifact}:{version}:{d.scope.name}"
  return sortTexts ids

end JavaBuild
