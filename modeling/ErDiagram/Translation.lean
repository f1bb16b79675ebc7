import ErDiagram.Document.Parse
import ErDiagram.Json.Schema
import ErDiagram.Validation

/-! Translation from JSON to statement text. A policy says which diagrams may be written: the strict one takes valid
    diagrams only, the tolerant one also those that break no rule on references. -/

namespace ErDiagram

inductive Policy where
  | strict
  | tolerant
  deriving DecidableEq, Repr

/-- Why there is no result. -/
inductive Failure where
  | json (error : Json.Error)
  | invalid (violations : List Violation)
  | document (error : SyntaxError)

/-- Some violation concerns a reference. -/
def breaksReference (violations : List Violation) : Bool := violations.any (·.class = .reference)

/-- The number of violations, and then each on a line of its own. -/
def violationsMessage (violations : List Violation) : String :=
  "diagram violates " ++ toString violations.length ++ " constraint(s):\n" ++
    "\n".intercalate (violations.map fun v => "  " ++ v.text)

def Failure.message : Failure → String
  | .json error => "malformed diagram JSON: " ++ error.message
  | .invalid violations => violationsMessage violations
  | .document error => error.message

/-- The policy lets a diagram with these violations be written. -/
def Policy.permits (policy : Policy) (violations : List Violation) : Bool :=
  violations = [] || policy = .tolerant && !breaksReference violations

def Diagram.serialize (policy : Policy) (d : Diagram) : Except Failure String :=
  if policy.permits d.violations then .ok d.render else .error (.invalid d.violations)

def Diagram.ofJson (text : String) : Except Failure Diagram := (Diagram.reader.decode text).mapError .json

def Diagram.ofDocument (text : String) : Except Failure Diagram := (Diagram.parse text).mapError .document

/-- Nothing but the verdict on a diagram. -/
def Diagram.check (d : Diagram) : Except Failure Unit :=
  if d.violations = [] then .ok () else .error (.invalid d.violations)

/-- The statement text for a diagram in JSON. -/
def translate (policy : Policy) (text : String) : Except Failure String := do
  (← Diagram.ofJson text).serialize policy

/-- The JSON for a diagram in statement text. -/
def reverse (text : String) : Except Failure String := do
  return (← Diagram.ofDocument text).toJson.pretty

end ErDiagram
