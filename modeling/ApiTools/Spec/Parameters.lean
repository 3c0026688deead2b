import ApiTools.Spec.Reference

/-!
# Parameters of an operation

Parameters are declared for all operations of a path and for one operation.  One that is declared
for the operation takes the place of one with the same name and location declared for the path.
-/

namespace ApiTools.Spec

/-- What tells two parameters apart: the name and the location, each where it is given as a
text. -/
def parameterKey (parameter : Document) : Option String × Option String :=
  (parameter.getText? "name", parameter.getText? "in")

/-- The parameters with one more: it takes the place of the first one with its key, or goes to the
end. -/
def addParameter : List Document → Document → List Document
  | [], parameter => [parameter]
  | known :: rest, parameter =>
    if parameterKey known = parameterKey parameter then parameter :: rest
    else known :: addParameter rest parameter

/-- The parameters declared for the path and then those declared for the operation, references
followed. -/
def declaredParameters (spec : Spec) (op : Operation) : List Document :=
  ((op.pathItem.getItems? "parameters").getD [] ++ op.parameters).map spec.resolve

/-- The parameters of the operation, each name and location once. -/
def mergedParameters (spec : Spec) (op : Operation) : List Document :=
  (spec.declaredParameters op).foldl addParameter []

end ApiTools.Spec
