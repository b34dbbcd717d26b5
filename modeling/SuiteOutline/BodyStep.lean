import SuiteOutline.Callable
import SuiteOutline.Json

/-!
# Bodies made of steps

A body can be given as a list of steps, each of which binds or checks something in the context.
The steps are taken in order, up to the first that fails; what earlier steps bound stays bound.
-/

namespace SuiteOutline

def Value.toJson : Value → Json
  | .boolean value => .boolean value
  | .integer value => .integer value.toInt
  | .text value => .string value

inductive BodyStep where
  | bind (name : String) (value : Value)
  | require (name : String) (type : ValueType)
  | expect (name : String) (value : Value)
  /-- Adds to an integer; the sum wraps around. -/
  | add (name : String) (amount : Int64)
  | fail (message : String)

namespace BodyStep

def required (name : String) (type : ValueType) : TestM Value Value := do
  match (← get).require name type with
  | .error failure => throw failure
  | .ok value => pure value

def take : BodyStep → TestM Value Unit
  | .bind name value => modify fun context => context.bind name value
  | .require name type => do
      let _ ← required name type
  | .expect name value => do
      let found ← required name value.type
      if found = value then pure ()
      else throw (.failed (name ++ " is " ++ found.toJson.compact))
  | .add name amount => do
      match ← required name .integer with
      | .integer present => modify fun context => context.bind name (.integer (present + amount))
      | _ => pure ()
  | .fail message => throw (.failed message)

def takeAll : List BodyStep → TestM Value Unit
  | [] => pure ()
  | step :: rest => do
      step.take
      takeAll rest

end BodyStep

def Callable.withSteps (callable : Callable) (steps : List BodyStep) : Callable :=
  callable.withBody (BodyStep.takeAll steps)

end SuiteOutline
