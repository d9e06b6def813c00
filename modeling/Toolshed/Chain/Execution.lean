import Toolshed.Chain.Builder
import Toolshed.Environment.Layers
import Toolshed.Template

/-!
# Executing tools

A tool is executed by the primitive at the end of its chain, provided that the chain is legal.  The
primitive gets the configurations of all links, those closer to the tool taking precedence and the
parameters of the call before all, with the placeholders in them filled.
-/

namespace Toolshed.Chain

open Json

/-- What executing a tool gives. -/
structure Outcome where
  success : Bool
  data : Value
  error : Option String
  chain : List String
deriving Inhabited

namespace Outcome

/-- The outcome of a success. -/
def ofData (data : Value) : Outcome :=
  ⟨true, data, none, []⟩

/-- The outcome of a failure. -/
def ofError (error : String) : Outcome :=
  ⟨false, .null, some error, []⟩

end Outcome

/-- What executes a configuration, with the effects of some monad. -/
abbrev Primitive (m : Type → Type) := Value → m Outcome

/-- Primitives by their names. -/
abbrev RegistryIn (m : Type → Type) := Assoc (Primitive m)

/-- Primitives without effects by their names. -/
abbrev Registry := RegistryIn Id

/-- The name under which an item may be found as well: the last part of its own. -/
def shortName (item : String) : String :=
  String.ofList (Text.lastPart '/' item.toList)

/-- The primitive of an item, by its whole name or else by the last part of it. -/
def RegistryIn.find? {m : Type → Type} (registry : RegistryIn m) (item : String) :
    Option (Primitive m) :=
  (Assoc.get? item registry).or (Assoc.get? (shortName item) registry)

/-- A configuration of environments with one more field; two objects of variables are put
together. -/
def mergeVariables (merged : Fields) (name : String) (value : Value) : Fields :=
  match Assoc.get? name merged, value with
  | some (.object before), .object update =>
    if name = "env" then Assoc.insert name (.object (Assoc.insertAll update before)) merged
    else Assoc.insert name value merged
  | _, _ => Assoc.insert name value merged

/-- The configuration of the environment for a chain; a link takes precedence over those that it
runs through. -/
def environmentConfig (chain : List Element) : Fields :=
  (chain.reverse.flatMap fun element => element.envConfig.getD []).foldl
    (fun merged (name, value) => mergeVariables merged name value) []

/-- The environment in which a chain runs. -/
def environment (layers : EnvironmentLayers) (host : Host) (chain : List Element) :
    Environment :=
  layers.resolve host (environmentConfig chain) [] true

/-- The configuration of a chain; a link takes precedence over those that it runs through, and
parameters over all of them. -/
def mergedConfig (chain : List Element) (params : Fields) : Fields :=
  Assoc.insertAll params
    ((chain.reverse.map Element.config).foldl (fun merged config => Assoc.insertAll config merged)
      [])

section

variable {m : Type → Type} [Monad m]

/-- The outcome of running a chain that has an end. -/
def run (layers : EnvironmentLayers) (host : Host) (params : Fields) (registry : RegistryIn m)
    (chain : List Element) (terminal : Element) : m Outcome :=
  let verdict := validate (chain.map Element.link)
  if !verdict.isValid then
    pure (.ofError ("chain validation failed: " ++ "; ".intercalate verdict.issues))
  else match registry.find? terminal.item with
    | none => pure (.ofError ("no primitive registered for " ++ terminal.item))
    | some primitive =>
      primitive (Template.fillConfig (.object (mergedConfig chain params))
        (environment layers host chain))

/-- The outcome of executing a tool. -/
def Builder.execute (layers : EnvironmentLayers) (host : Host) (item : String)
    (params : Fields) (registry : RegistryIn m) (b : Builder) :
    m (Except Failure Outcome × Builder) :=
  match b.build host item false with
  | (.error failure, b) => pure (.error failure, b)
  | (.ok chain, b) =>
    match chain.getLast? with
    | none => pure (.ok (.ofError ("tool not found: " ++ item)), b)
    | some terminal => do
      let outcome ← run layers host params registry chain terminal
      pure (.ok { outcome with chain := chain.map Element.item }, b)

end

end Toolshed.Chain
