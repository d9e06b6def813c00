import Toolshed.Environment.Layers
import Toolshed.Proofs.Assoc
import Toolshed.Proofs.Environment.References
import Mathlib.Logic.Function.Basic

/-!
# Which layer a variable comes from

An environment is built by assignments, one after another.  The files, the interpreter, the chain
and the caller each give a row of them, and a variable has the value of the last assignment to it.
An assignment of the chain or of the caller is a text, which is expanded by the values that
variables have just before it, so it may refer to what the lower layers and the assignments before
it have set, to its own variable as well.
-/

namespace Toolshed

open Json

namespace Environment

/-! ### Values of variables -/

/-- The values that variables have in an environment. -/
def values (env : Environment) : String → Option String :=
  fun name => Assoc.get? name env

/-- The value of a reference by the values of variables. -/
def Reference.valueBy (values : String → Option String) (r : Reference) : List Char :=
  match values (String.ofList r.name) with
  | some value => value.toList
  | none => r.default.getD []

/-- A text with its references replaced by the values of variables. -/
def expandBy (values : String → Option String) : List Char → List Char
  | [] => []
  | c :: cs =>
    match _h : reference? (c :: cs) with
    | some (r, rest) => r.valueBy values ++ expandBy values rest
    | none => c :: expandBy values cs
termination_by cs => cs.length
decreasing_by
  · exact reference?_length _h
  · simp

section

variable {c : Char} {cs rest : List Char} {r : Reference}

theorem expandBy_of_reference (values : String → Option String)
    (found : reference? (c :: cs) = some (r, rest)) :
  expandBy values (c :: cs) = r.valueBy values ++ expandBy values rest
  := by
  rw [expandBy]
  split
  · next found' =>
      cases found.symm.trans found'
      rfl
  · next found' => cases found.symm.trans found'

theorem expandBy_of_character (values : String → Option String)
    (found : reference? (c :: cs) = none) :
  expandBy values (c :: cs) = c :: expandBy values cs
  := by
  rw [expandBy]
  split
  · next found' => cases found.symm.trans found'
  · rfl

end

/-- What a text becomes depends on the values that variables have, and not on their order. -/
theorem expand_eq_expandBy (env : Environment) (cs : List Char) :
  env.expand cs = expandBy env.values cs
  := by
  induction cs using expandBy.induct with
  | case1 => rw [expand, expandBy]
  | case2 c cs r rest found ih =>
      rw [expand_of_reference env found, ih, expandBy_of_reference env.values found]
      rfl
  | case3 c cs found ih =>
      rw [expand_of_character env found, ih, expandBy_of_character env.values found]

/-! ### Assignments -/

/-- A variable is set to a value, or to a text that is expanded. -/
inductive Assignment where
  | plain (name value : String)
  | expanded (name text : String)
deriving DecidableEq

namespace Assignment

/-- The variable that is set. -/
def name : Assignment → String
  | .plain name _ => name
  | .expanded name _ => name

/-- The value that the variable gets, by the values that variables have before. -/
def valueBy (values : String → Option String) : Assignment → String
  | .plain _ value => value
  | .expanded _ text => String.ofList (expandBy values text.toList)

/-- The values after an assignment. -/
def update (values : String → Option String) (a : Assignment) : String → Option String :=
  Function.update values a.name (some (a.valueBy values))

end Assignment

/-- The values after some assignments, one after another. -/
def valuesAfter (values : String → Option String) (assignments : List Assignment) :
    String → Option String :=
  assignments.foldl Assignment.update values

theorem valuesAfter_append (values : String → Option String) (before after : List Assignment) :
  valuesAfter values (before ++ after) = valuesAfter (valuesAfter values before) after
  := List.foldl_append

/-- A variable to which nothing is assigned keeps its value. -/
theorem valuesAfter_of_not_assigned (values : String → Option String)
    {assignments : List Assignment} {name : String} (other : ∀ a ∈ assignments, a.name ≠ name) :
  valuesAfter values assignments name = values name
  := by
  induction assignments generalizing values with
  | nil => rfl
  | cons a assignments ih =>
      obtain ⟨first, rest⟩ := List.forall_mem_cons.mp other
      rw [valuesAfter, List.foldl_cons, ← valuesAfter, ih _ rest, Assignment.update,
        Function.update_of_ne (Ne.symm first)]

/-- A variable has the value of the last assignment to it, which is found by the values before. -/
theorem valuesAfter_of_last (values : String → Option String) (before : List Assignment)
    (last : Assignment) {after : List Assignment} (other : ∀ a ∈ after, a.name ≠ last.name) :
  valuesAfter values (before ++ last :: after) last.name
    = some (last.valueBy (valuesAfter values before))
  := by
  rw [valuesAfter_append, valuesAfter, List.foldl_cons, ← valuesAfter,
    valuesAfter_of_not_assigned _ other, Assignment.update, Function.update_self]

example :
  valuesAfter (fun _ => none) [.plain "LEVEL" "user", .plain "LEVEL" "local",
    .expanded "LEVEL" "$\x7bLEVEL\x7d-tool"] "LEVEL" = some "local-tool"
  := by
  decide +kernel

/-- What a variable has after rows of assignments over a base: what it has in the base, if no row
sets it, or what the last assignment to it in the last row that sets it makes of the values before
that assignment. -/
inductive ComesTo (base : String → Option String) :
    List (List Assignment) → String → Option String → Prop where
  | base {rows : List (List Assignment)} {name : String}
      (other : ∀ a ∈ rows.flatten, a.name ≠ name) :
      ComesTo base rows name (base name)
  | row (below above : List (List Assignment)) (before after : List Assignment)
      (last : Assignment) (other : ∀ a ∈ after ++ above.flatten, a.name ≠ last.name) :
      ComesTo base (below ++ (before ++ last :: after) :: above) last.name
        (some (last.valueBy (valuesAfter base (below.flatten ++ before))))

/-- Among some assignments, there is a last one to a variable, if there is one. -/
theorem exists_last {assignments : List Assignment} {a : Assignment} (among : a ∈ assignments) :
  ∃ before last after, assignments = before ++ last :: after ∧ last.name = a.name
    ∧ ∀ later ∈ after, later.name ≠ a.name
  := by
  induction assignments using List.reverseRecOn with
  | nil => cases among
  | append_singleton assignments final ih =>
      by_cases same : final.name = a.name
      · use assignments, final, [], rfl, same
        apply List.forall_mem_nil
      · have among : a ∈ assignments := by
          rcases List.mem_append.mp among with among | among
          · apply among
          · rw [List.mem_singleton.mp among] at same
            cases same rfl
        obtain ⟨before, last, after, rfl, named, other⟩ := ih among
        use before, last, after ++ [final], List.append_assoc _ _ _, named
        rw [List.forall_mem_append, List.forall_mem_singleton]
        use other, same

theorem comesTo_valuesAfter (base : String → Option String) (rows : List (List Assignment))
    (name : String) :
  ComesTo base rows name (valuesAfter base rows.flatten name)
  := by
  induction rows using List.reverseRecOn with
  | nil =>
      apply ComesTo.base
      apply List.forall_mem_nil
  | append_singleton rows row ih =>
      rw [List.flatten_append, List.flatten_singleton]
      by_cases set : ∃ a ∈ row, a.name = name
      · obtain ⟨a, among, rfl⟩ := set
        obtain ⟨before, last, after, rfl, named, other⟩ := exists_last among
        rw [← named] at other ⊢
        rw [← List.append_assoc, valuesAfter_of_last base _ last other]
        apply ComesTo.row
        rw [List.flatten_nil, List.append_nil]
        apply other
      · have other : ∀ a ∈ row, a.name ≠ name := fun a among same => set ⟨a, among, same⟩
        rw [valuesAfter_append, valuesAfter_of_not_assigned _ other]
        generalize valuesAfter base rows.flatten name = value at ih
        cases ih with
        | base others =>
            apply ComesTo.base
            rw [List.flatten_append, List.flatten_singleton, List.forall_mem_append]
            use others, other
        | row below above before after last others =>
            rw [List.append_assoc, List.cons_append]
            apply ComesTo.row
            rw [List.flatten_append, List.flatten_singleton, ← List.append_assoc,
              List.forall_mem_append]
            use others, other

/-- Assignments of values, as some entries make them. -/
def plainAssignments (entries : List (String × String)) : List Assignment :=
  entries.map fun (name, value) => .plain name value

/-- Assignments of texts, as the scalars among some members make them. -/
def expandedAssignments (members : Fields) : List Assignment :=
  members.filterMap fun (name, value) => value.scalar?.map (Assignment.expanded name)

theorem values_insert (name value : String) (env : Environment) :
  values (Assoc.insert name value env) = (Assignment.plain name value).update env.values
  := by
  funext other
  rw [values, Assoc.get?_insert]
  symm
  split
  · next same =>
      rw [← same]
      apply Function.update_self
  · next different => apply Function.update_of_ne (Ne.symm different)

/-- Entries that are inserted are assigned one after another. -/
theorem values_insertAll (entries : List (String × String)) (env : Environment) :
  values (Assoc.insertAll entries env) = valuesAfter env.values (plainAssignments entries)
  := by
  induction entries generalizing env with
  | nil => rfl
  | cons entry entries ih =>
      obtain ⟨name, value⟩ := entry
      rw [Assoc.insertAll, List.foldl_cons, ← Assoc.insertAll, ih, values_insert]
      rfl

theorem expandedAssignments_cons (name : String) (value : Value) (members : Fields) :
  expandedAssignments ((name, value) :: members)
    = (value.scalar?.map (Assignment.expanded name)).toList ++ expandedAssignments members
  := by
  rw [expandedAssignments, List.filterMap_cons]
  dsimp only
  rcases value.scalar? with _ | text
  · rfl
  · rfl

/-- A member is assigned if it is a scalar. -/
theorem values_assign (env : Environment) (name : String) (value : Value) :
  values (env.assign name value)
    = valuesAfter env.values (value.scalar?.map (Assignment.expanded name)).toList
  := by
  rw [assign]
  rcases value.scalar? with _ | text
  · rfl
  · dsimp only
    rw [values_insert, expandText, expand_eq_expandBy]
    rfl

/-- Members are assigned one after another. -/
theorem values_assignAll (env : Environment) (members : Fields) :
  values (env.assignAll members) = valuesAfter env.values (expandedAssignments members)
  := by
  induction members generalizing env with
  | nil => rfl
  | cons member members ih =>
      obtain ⟨name, value⟩ := member
      rw [assignAll, List.foldl_cons, ← assignAll, ih, values_assign, expandedAssignments_cons,
        valuesAfter_append]

end Environment

namespace EnvironmentLayers

open Environment

variable (r : EnvironmentLayers) (host : Host) (config caller : Fields)

/-! ### Rows of assignments -/

/-- The assignment of the interpreter that a configuration asks for: to what is found, or else to
what stands in for it. -/
def interpreterAssignment? : Option Assignment :=
  (objectOf? config "interpreter").bind fun fields =>
    let spec := InterpreterSpec.ofFields fields
    ((spec.strategy.bind (r.locator.locate? host)).or spec.fallback).map
      (Assignment.plain spec.variableName)

/-- The assignments of an environment file. -/
def fileAssignments (path : String) : List Assignment :=
  plainAssignments (fileLayer host path)

/-- The assignments of the environment files: of the one in the user space, and then, if there is a
project, of the one in its space and of the two beside that. -/
def fileRows (user : String) : Option String → List (List Assignment)
  | none => [fileAssignments host (Path.join user ".env")]
  | some project =>
    [fileAssignments host (Path.join user ".env"),
      fileAssignments host (Path.join (Path.join project ".ai") ".env"),
      fileAssignments host (Path.join project ".env"),
      fileAssignments host (Path.join project ".env.local")]

/-- The rows of assignments over the base, the lower ones first. -/
def rows : List (List Assignment) :=
  fileRows host r.locator.user r.locator.project
    ++ [(r.interpreterAssignment? host config).toList,
      expandedAssignments ((objectOf? config "env").getD []), expandedAssignments caller]

/-- The environment files are read in the order of their rows. -/
theorem map_filePaths :
  r.filePaths.map (fileAssignments host) = fileRows host r.locator.user r.locator.project
  := by
  rw [filePaths, fileRows.eq_def]
  rcases r.locator.project with _ | project
  · rfl
  · rfl

/-- The files are put together first, which makes no difference. -/
theorem values_fileVariables (env : Environment) :
  values (Assoc.insertAll (r.fileVariables host) env)
    = valuesAfter env.values (fileRows host r.locator.user r.locator.project).flatten
  := by
  have merged : r.fileVariables host = Assoc.ofEntries (r.filePaths.map (fileLayer host)).flatten :=
    Assoc.foldl_insertAll _ _
  have rows : (fileRows host r.locator.user r.locator.project).flatten
      = plainAssignments (r.filePaths.map (fileLayer host)).flatten := by
    rw [← map_filePaths, plainAssignments, List.map_flatten, List.map_map]
    rfl
  rw [rows, ← values_insertAll, merged]
  funext name
  apply Assoc.get?_insertAll_ofEntries

theorem values_withInterpreter (env : Environment) :
  values (r.withInterpreter host config env)
    = valuesAfter env.values (r.interpreterAssignment? host config).toList
  := by
  rw [withInterpreter, interpreterAssignment?]
  rcases objectOf? config "interpreter" with _ | fields
  · rfl
  · rw [Option.bind_some]
    dsimp only
    rw [← Locator.resolve?]
    rcases r.locator.resolve? host (InterpreterSpec.ofFields fields) with _ | path
    · rfl
    · apply values_insert

/-- An environment has the values that its base has after the assignments of all rows. -/
theorem values_resolve :
  values (r.resolve host config caller true)
    = valuesAfter (r.base.getD host.environment).values (r.rows host config caller).flatten
  := by
  rw [resolve, values_assignAll, values_assignAll, values_withInterpreter, if_pos rfl,
    values_fileVariables, ← valuesAfter_append, ← valuesAfter_append, ← valuesAfter_append, rows,
    List.flatten_append]
  congr 1
  simp

/-- The variables of a file are those that are read from it, and none if it is missing or cannot be
read as a whole. -/
theorem fileLayer_cases (path : String) :
  (host.files.isFile path = true ∧ ofFile host path = .ok (fileLayer host path)) ∨
    ((host.files.isFile path = false ∨ ∃ failure, ofFile host path = .error failure)
      ∧ fileLayer host path = [])
  := by
  rw [fileLayer]
  rcases host.files.isFile path with _ | _
  · right
    use Or.inl rfl
    rfl
  · rcases ofFile host path with failure | found
    · right
      use Or.inr ⟨failure, rfl⟩
      rfl
    · left
      use rfl
      rfl

/-- The variables of a file depend on nothing but this file, and on the process. -/
theorem fileLayer_congr {host host' : Host} {path : String}
    (process : host'.environment = host.environment)
    (present : host'.files.isFile path = host.files.isFile path)
    (text : host'.files.read path = host.files.read path) :
  fileLayer host' path = fileLayer host path
  := by
  rw [fileLayer, fileLayer, ofFile, ofFile, process, present, text]

/-- Every variable of an environment comes to what the rows over the base make of it: those of the
files, each of which counts as a whole or not at all and on its own, then the interpreter, the chain
and the caller. -/
theorem resolve_comesTo :
  (∀ name, ComesTo (r.base.getD host.environment).values (r.rows host config caller) name
      ((r.resolve host config caller true).values name)) ∧
    (∀ path, (host.files.isFile path = true ∧ ofFile host path = .ok (fileLayer host path)) ∨
      ((host.files.isFile path = false ∨ ∃ failure, ofFile host path = .error failure)
        ∧ fileLayer host path = [])) ∧
    ∀ host' path, host'.environment = host.environment →
      host'.files.isFile path = host.files.isFile path →
      host'.files.read path = host.files.read path → fileLayer host' path = fileLayer host path
  := by
  refine ⟨?_, ?_, ?_⟩
  · intro name
    rw [values_resolve]
    apply comesTo_valuesAfter
  · apply fileLayer_cases
  · intro host' path
    apply fileLayer_congr

/-! ### Files that set one variable -/

/-- A file with a text. -/
def envFile (text : String) : FileTree :=
  .file text.toUTF8 1 false

/-- A machine whose environment files all set one variable; the last of them is malformed. -/
def fourFiles : Host :=
  ⟨.directory
    [("p", .directory
      [(".ai", .directory [(".env", envFile "LEVEL=space\n")]),
        (".env", envFile "LEVEL=project\n"), (".env.local", envFile "LEVEL=local\nnot a pair\n")]),
      ("u", .directory [(".env", envFile "LEVEL=user\n")])],
    0, []⟩

/-- The value of the project comes before those of its space and of the user, a malformed file sets
nothing, and the chain refers to what the files have set. -/
theorem resolve_comesTo_fourFiles :
  let layers : EnvironmentLayers := ⟨⟨some "/p", "/u", none⟩, some [("LEVEL", "base")]⟩
  let config : Fields := [("env", .object [("LEVEL", .string "$\x7bLEVEL\x7d-tool")])]
  ComesTo (values [("LEVEL", "base")])
      [[.plain "LEVEL" "user"], [.plain "LEVEL" "space"], [.plain "LEVEL" "project"], [], [],
        [.expanded "LEVEL" "$\x7bLEVEL\x7d-tool"], []]
      "LEVEL" (some "project-tool")
    ∧ (layers.resolve fourFiles config [] true).values "LEVEL" = some "project-tool"
  := by
  intro layers config
  have rows : layers.rows fourFiles config []
      = [[.plain "LEVEL" "user"], [.plain "LEVEL" "space"], [.plain "LEVEL" "project"], [], [],
        [.expanded "LEVEL" "$\x7bLEVEL\x7d-tool"], []] := by
    decide +kernel
  have value : (layers.resolve fourFiles config [] true).values "LEVEL" = some "project-tool" := by
    decide +kernel
  have comesTo := (layers.resolve_comesTo fourFiles config []).1 "LEVEL"
  rw [rows, value] at comesTo
  use comesTo

end EnvironmentLayers

end Toolshed
