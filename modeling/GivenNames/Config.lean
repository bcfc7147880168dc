import GivenNames.Path
import GivenNames.Text.Blank

/-!
The configuration of a run: where the registrations are, and how much is logged.

The path comes from the first argument, else from the environment, else it is the name of the
published file. A blank setting counts as none.
-/

namespace GivenNames

/-- Where the registrations are, and how much is logged. -/
structure Config where
  dataPath : String
  logLevel : String
  deriving DecidableEq, Repr

namespace Config

/-- The configuration of a run without any setting. -/
def default : Config :=
  ⟨"OGDEXT_VORNAMEN_1.csv", "info"⟩

/-- A setting, unless it is blank. -/
def given (setting : Option String) : Option String :=
  setting.filter fun s => !Text.isBlankText s

/-- The configuration that the settings amount to. -/
def resolve (argument environmentPath environmentLevel : Option String) : Config where
  dataPath := ((given argument).or (given environmentPath)).getD default.dataPath
  logLevel := (given environmentLevel).getD default.logLevel

/-- Whether a configuration is the one without any setting. -/
def isDefault (c : Config) : Bool :=
  Path.same c.dataPath default.dataPath && c.logLevel == default.logLevel

end Config

end GivenNames
