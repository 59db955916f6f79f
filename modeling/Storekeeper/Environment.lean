import Storekeeper.Text.Blank
import Storekeeper.Text.LowerCase

/-!
# Deployment environments

An installation runs in one of four environments.  `Environment.ofText?` reads an
environment from its name or its short form, in any letter case and between blanks.
-/

namespace Storekeeper

/-- Where an installation runs. -/
inductive Environment where
  | development
  | test
  | staging
  | production
deriving DecidableEq, Repr

/-- An installation that names no environment is one for development. -/
instance : Inhabited Environment := ⟨.development⟩

namespace Environment

/-- All environments, in order. -/
def all : List Environment := [development, test, staging, production]

theorem mem_all (e : Environment) :
  e ∈ all
  := by
  cases e <;> simp [all]

/-- The name of an environment in settings, documents and messages. -/
def name : Environment → String
  | development => "development"
  | test => "test"
  | staging => "staging"
  | production => "production"

/-- The capitalised name of an environment. -/
def title : Environment → String
  | development => "Development"
  | test => "Test"
  | staging => "Staging"
  | production => "Production"

/-- The environment with the given name or short form, in small letters. -/
def ofName? (s : String) : Option Environment :=
  if s = "dev" ∨ s = "development" then some development
  else if s = "test" ∨ s = "testing" then some test
  else if s = "stage" ∨ s = "staging" then some staging
  else if s = "prod" ∨ s = "production" then some production
  else none

theorem ofName?_name (e : Environment) :
  ofName? e.name = some e
  := by
  cases e <;> rfl

/-- The text by which an environment is looked up: without outer blanks, in small letters. -/
def normalize (s : String) : String := Text.lowered (Text.trimmed s)

/-- The environment that a text names. -/
def ofText? (s : String) : Option Environment := ofName? (normalize s)

end Environment

end Storekeeper
