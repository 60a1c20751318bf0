import LibraryDetection.Number.Layout
import LibraryDetection.Number.Literal
import LibraryDetection.Text.LowerCase
import LibraryDetection.Text.Quoted

/-!
# Match settings

The score from which a library is reported, and the share that the package structure
has in the score.  Both lie between 0 and 1; the environment may set them.
-/

namespace LibraryDetection

set_option autoImplicit false

open LibraryDetection.Text LibraryDetection.Number

structure MatchSettings where
  minScore : Float := 0.6
  /-- Whether the package structure is looked at. -/
  pathAware : Bool := true
  pathAwareWeight : Float := 0.0

inductive SettingsError
  | minScore (value : Float)
  | weight (value : Float)
  /-- The package structure has a share in the score and is not looked at. -/
  | weightWithoutPaths
  | notNumber (name value : String)
  | notTruth (name value : String)

def SettingsError.message : SettingsError → String
  | .minScore value => "min_score must be within [0, 1], got " ++ plainLayout.text value
  | .weight value => "path_aware_weight must be within [0, 1], got " ++ plainLayout.text value
  | .weightWithoutPaths => "path_aware_weight requires path-aware matching"
  | .notNumber name value => name ++ " must be a number, got " ++ quoted value
  | .notTruth name value => name ++ " must be a boolean, got " ++ quoted value

namespace MatchSettings

def withinUnit (value : Float) : Bool := 0.0 ≤ value && value ≤ 1.0

def make (minScore : Float) (pathAware : Bool) (weight : Float) :
    Except SettingsError MatchSettings :=
  if !withinUnit minScore then .error (.minScore minScore)
  else if !withinUnit weight then .error (.weight weight)
  else if 0.0 < weight && !pathAware then .error .weightWithoutPaths
  else .ok ⟨minScore, pathAware, weight⟩

abbrev Environment := List (String × String)

def setting? (environment : Environment) (name : String) : Option String :=
  match (environment.lookup name).map trim with
  | some "" => none
  | found => found

def numberSetting (environment : Environment) (name : String) (absent : Float) :
    Except SettingsError Float :=
  match setting? environment name with
  | none => .ok absent
  | some value =>
      match real? value with
      | some number => .ok number
      | none => .error (.notNumber name value)

def truthSetting (environment : Environment) (name : String) (absent : Bool) :
    Except SettingsError Bool :=
  match (setting? environment name).map lower with
  | none => .ok absent
  | some value =>
      if value ∈ ["1", "true", "yes", "on"] then .ok true
      else if value ∈ ["0", "false", "no", "off"] then .ok false
      else .error (.notTruth name value)

/-- The settings of an environment; a name that is not set has its default. -/
def ofEnvironment (environment : Environment) : Except SettingsError MatchSettings := do
  let minScore ← numberSetting environment "LIBMATCH_MIN_SCORE" 0.6
  let pathAware ← truthSetting environment "LIBMATCH_PATH_AWARE" true
  let weight ← numberSetting environment "LIBMATCH_PATH_AWARE_WEIGHT" 0.0
  make minScore pathAware weight

end MatchSettings

end LibraryDetection
