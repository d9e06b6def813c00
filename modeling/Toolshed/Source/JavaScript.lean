import Toolshed.Source.JavaScript.Statement

/-!
# JavaScript sources

A source declares what its top level binds to single names: by declarations, exported or not, and
by assignments that stand as statements.
-/

namespace Toolshed.Source.JavaScript

/-- The statements of a source, none when it does not follow the grammar.  A first line that names
an interpreter does not belong to them. -/
def statements? (content : List Char) : Option (List Statement) :=
  let content := match skip content with
    | '#' :: '!' :: rest => rest.dropWhile (· != '\n')
    | rest => rest
  readStatements (rule (4 * content.length + 16)) (content.length + 1) content

/-- The names and values that a statement binds. -/
def Statement.bound : Statement → List (Expr × Expr)
  | .bindings entries => entries
  | .expression (.assignment target value) => [(target, value)]
  | _ => []

/-- The literal that a binding gives to a name. -/
def assignment? : Expr × Expr → Option Assignment
  | (.name w, value) => value.value?.map fun v => ⟨String.ofList w, v, value.isConstant⟩
  | _ => none

/-- What a source declares, none when it does not follow the grammar. -/
def readModule? (content : List Char) : Option Module :=
  (statements? content).map fun statements =>
    ⟨(statements.flatMap Statement.bound).filterMap assignment?, none⟩

end Toolshed.Source.JavaScript
