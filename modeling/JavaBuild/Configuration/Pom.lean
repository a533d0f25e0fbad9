import JavaBuild.Configuration
import JavaBuild.Host
import JavaBuild.Xml.Reader
import JavaBuild.Data.Assoc

/-!
# Configurations from project descriptors

A Maven project descriptor (`pom.xml`) gives the compiler settings in three places: the
`maven.compiler.*` properties, the directories of its `build` element, and the `configuration`
of the compiler plugin, which wins over the properties. Elements are looked up in the namespace
of the root element.

Values may name properties as `${name}`: each such reference is replaced once by the property's
value, and left as it is when no property has that name. The properties are those of the
descriptor, `basedir` and `project.basedir` (the project directory) and
`project.build.directory`.

Truth values are read by `textToBool`, the tolerance of time comparisons as an integer; the
plugin's `sources` element, when present, replaces the default source directories
(`src/main/java` and `src/test/java`, or those the `build` element names).
-/

namespace JavaBuild

/-- Replaces each `${name}` of a text by the value of the property `name`, once, leaving a
reference to an unknown property as it is. -/
def interpolateChars (props : List (String × String)) : List Char → List Char
  | '$' :: '{' :: rest =>
    let name := rest.takeWhile (· != '}')
    if !name.isEmpty && name.length < rest.length then
      let value := match props.lookup (String.ofList name) with
        | some v => v.toList
        | none => '$' :: '{' :: name ++ ['}']
      value ++ interpolateChars props (rest.drop (name.length + 1))
    else '$' :: interpolateChars props ('{' :: rest)
  | c :: rest => c :: interpolateChars props rest
  | [] => []
termination_by cs => cs.length
decreasing_by
  all_goals simp only [List.length_cons, List.length_drop]
  all_goals omega

/-- Replaces the property references of a text. -/
def interpolate (props : List (String × String)) (v : String) : String :=
  String.ofList (interpolateChars props v.toList)

/-- The name of the compiler plugin. -/
def compilerPlugin : String := "maven-compiler-plugin"

/-- A project descriptor: its root element, whose namespace every lookup uses. -/
structure Pom where
  root : Xml.Element

namespace Pom

/-- The namespaces that lookups accept: the namespace of the root element, read off its tag
only when it holds no line feed (otherwise only names in no namespace match), and any
namespace when the root's namespace is `*`. -/
def namespaces (pom : Pom) : Xml.Namespaces :=
  match pom.root.ns with
  | some uri =>
    if uri.contains '\n' then .only none else if uri == "*" then .any else .only (some uri)
  | none => .only none

/-- The first element at a path below an element. -/
def get? (pom : Pom) (e : Xml.Element) (path : String) : Option Xml.Element :=
  e.find? pom.namespaces (path.splitOn "/")

/-- Every element at a path below an element. -/
def getAll (pom : Pom) (e : Xml.Element) (path : String) : List Xml.Element :=
  e.findAll pom.namespaces (path.splitOn "/")

/-- The text of the first element at a path, without blanks around it; none when there is no
such element or its text is blank. -/
def text? (pom : Pom) (e : Xml.Element) (path : String) : Option String :=
  (pom.get? e path).bind fun x =>
    let t := (x.text.getD "").trimBlanks
    if t.isEmpty then none else some t

/-- The configuration of the first compiler plugin that has one, among the plugins and then
the managed plugins. -/
def pluginConfiguration (pom : Pom) : Option Xml.Element :=
  let plugins := pom.getAll pom.root "build/plugins/plugin" ++
    pom.getAll pom.root "build/pluginManagement/plugins/plugin"
  (plugins.filter fun p => pom.text? p "artifactId" == some compilerPlugin).findSome?
    fun p => pom.get? p "configuration"

end Pom

/-- Reads a project descriptor's document. -/
def readPom (pomPath : String) : HostM Pom := do
  match Xml.readDocument (← HostM.readBytes pomPath) with
  | .ok root => return ⟨root⟩
  | .error (.entityDeclared n s p) =>
    throw (.forbiddenEntity (Xml.ReadError.entityDeclared n s p).message)
  | .error (.encoding kind m) => throw (.badData kind m)
  | .error e => throw (.malformedXml e.message)

/-- The settings that a project descriptor gives. -/
def loadConfiguration (pomPath : String) : HostM Configuration := do
  let pom ← readPom pomPath
  let cwd := (← get).cwd
  let projectDir := Path.parent (Path.absolute cwd pomPath)
  let mut props : List (String × String) := [("basedir", projectDir), ("project.basedir", projectDir)]
  if let some ps := pom.get? pom.root "properties" then
    for p in ps.children do
      props := Assoc.put props p.name (p.text.getD "").trimBlanks
  let buildDir := interpolate props ((pom.text? pom.root "build/directory").getD "target")
  props := Assoc.put props "project.build.directory" buildDir
  let interp (o : Option String) : Option String := o.map (interpolate props)
  let plugin := pom.pluginConfiguration
  let setting (name : String) (prop : Option String) : Option String :=
    let v := plugin.bind (pom.text? · name)
    let v := if v.isNone then
        (prop.bind fun n => props.lookup n).bind fun x => if x.isEmpty then none else some x
      else v
    interp v
  let flag (name : String) (dflt : Bool) (prop : Option String) : HostM Bool :=
    match setting name prop with
    | none => pure dflt
    | some v =>
      match textToBool v with
      | .ok b => pure b
      | .error _ => throw (.config s!"{pomPath}: invalid boolean value '{v}' for {name}")
  let values (name item : String) : List String :=
    match plugin.bind (pom.get? · name) with
    | none => []
    | some box => (pom.getAll box item).filterMap fun e =>
      let t := (e.text.getD "").trimBlanks
      if t.isEmpty then none else some (interpolate props t)
  let prop (n : String) : Option String := some ("maven.compiler." ++ n)
  let release := setting "release" (prop "release")
  let source := setting "source" (prop "source")
  let target := setting "target" (prop "target")
  let encoding := match setting "encoding" (prop "encoding") with
    | some e => if e.isEmpty then props.lookup "project.build.sourceEncoding" else some e
    | none => props.lookup "project.build.sourceEncoding"
  let fork ← flag "fork" false (prop "fork")
  let executable := setting "executable" (prop "executable")
  let compilerId := ((setting "compilerId" (prop "compilerId")).filter (!·.isEmpty)).getD "javac"
  let implicit := setting "implicit" (prop "implicit")
  let proc := setting "proc" (prop "proc")
  let useModulePath ← flag "useModulePath" true (prop "useModulePath")
  let failOnError ← flag "failOnError" true (prop "failOnError")
  let meminitial := setting "meminitial" (prop "meminitial")
  let maxmem := setting "maxmem" (prop "maxmem")
  let parameters ← flag "parameters" false (prop "parameters")
  let enablePreview ← flag "enablePreview" false (prop "enablePreview")
  let debug ← flag "debug" true (prop "debug")
  let debuglevel := setting "debuglevel" (prop "debuglevel")
  let showWarnings ← flag "showWarnings" true (prop "showWarnings")
  let verbose ← flag "verbose" false (prop "verbose")
  let incremental := ((setting "incrementalCompilation" (prop "incrementalCompilation")).filter
    (!·.isEmpty)).getD "options,dependencies,sources"
  let staleMillis ← match setting "staleMillis" (some "lastModGranularityMs") with
    | none => pure 0
    | some v =>
      match Text.integerValue? Text.isBlank v with
      | some n => pure n
      | none => throw (.config s!"{pomPath}: invalid staleMillis value '{v}'")
  let base : Configuration := {
    projectDirectory := projectDir, buildDirectory := buildDir,
    outputDirectory := ((interp (pom.text? pom.root "build/outputDirectory")).filter
      (!·.isEmpty)).getD (Path.join buildDir "classes"),
    testOutputDirectory := ((interp (pom.text? pom.root "build/testOutputDirectory")).filter
      (!·.isEmpty)).getD (Path.join buildDir "test-classes"),
    release, source, target, encoding, fork, executable, compilerId, implicit, proc,
    useModulePath, failOnError, meminitial, maxmem, parameters, enablePreview, debug, debuglevel,
    showWarnings, verbose, incrementalCompilation := incremental, staleMillis,
    compilerArgs := values "compilerArgs" "arg",
    annotationProcessorPaths := values "annotationProcessorPaths" "path" }
  let mut dirs : List Source.SourceDirectory := []
  match plugin.bind (pom.get? · "sources") with
  | some sources =>
    for src in pom.getAll sources "source" do
      let some directory := interp (pom.text? src "directory")
        | throw (.config s!"{pomPath}: <source> element without <directory>")
      let scope := (pom.text? src "scope").getD "main"
      let targetVersion := interp (pom.text? src "targetVersion")
      let patterns (box item : String) : List String :=
        match pom.get? src box with
        | some b => (pom.getAll b item).filterMap fun e => e.text.map String.trimBlanks
        | none => []
      let release ← match targetVersion with
        | some tv =>
          if tv.isEmpty then pure none
          else match Release.ofText? (some tv) (some directory) with
            | .ok r => pure (some r)
            | .error e => throw e.failure
        | none => pure none
      let d ← HostM.ofExcept (Source.SourceDirectory.make (base.path cwd directory) scope
        (pom.text? src "module") release (patterns "includes" "include") (patterns "excludes" "exclude"))
      dirs := dirs ++ [d]
  | none =>
    let main := ((interp (pom.text? pom.root "build/sourceDirectory")).filter (!·.isEmpty)).getD
      "src/main/java"
    let test := ((interp (pom.text? pom.root "build/testSourceDirectory")).filter (!·.isEmpty)).getD
      "src/test/java"
    dirs := [{ root := base.path cwd main, scope := .main }, { root := base.path cwd test, scope := .test }]
  HostM.logVerbose s!"Loaded compiler configuration from {pomPath}"
  let config := { base with sourceDirectories := dirs }
  HostM.ofExcept config.validate
  return config

end JavaBuild
