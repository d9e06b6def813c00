import Toolshed.Source.Python.Statement

/-!
# Python sources

A source declares what the statements at its top level assign to single names, and its
documentation is the string that stands as the first statement.
-/

namespace Toolshed.Source.Python

/-- The statements of a source, none when it does not follow the grammar. -/
def statements? (content : List Char) : Option (List Statement) :=
  let content := match content with
    | '\ufeff' :: rest => rest
    | cs => cs
  readStatements (rule (4 * content.length + 16)) (content.length + 1) ⟨content, [0]⟩

/-- The documentation that a first statement holds. -/
def docstring? : List Statement → Option String
  | .expressions (.string token :: _) :: _ => token.value?.map Text.trim
  | .expressions (.strings parts :: _) :: _ =>
    (Expr.texts? parts).map fun cs => Text.trim (String.ofList cs)
  | _ => none

/-- The literal that a statement assigns to a name. -/
def assignment? : Statement → Option Assignment
  | .assignment target value =>
    value.value?.map fun v => ⟨String.ofList target, v, value.isConstant⟩
  | _ => none

/-- What a source declares, none when it does not follow the grammar. -/
def readModule? (content : List Char) : Option Module :=
  (statements? content).map fun statements =>
    ⟨statements.filterMap assignment?, docstring? statements⟩

end Toolshed.Source.Python
