import Community.Config.Decode
import Community.Config.Folder

/-!
# Loading the configuration

The configuration is made of layers, each of which overrides the ones before: the defaults
of all deployments, the file of one deployment, and the variables of the environment. A
file of variables fills in those that are not set. A configuration may also be read from
one file that is named.
-/

namespace Community.Config

open Text

/-! ## The environment as a source -/

/-- What the names of variables that are settings begin with, in lower case. -/
def variableStart : List Char :=
  "plaza__".toList

/-- Two underscores stand between the parts of a path. -/
def joinParts : List Char → List Char
  | '_' :: '_' :: cs => '.' :: joinParts cs
  | c :: cs => c :: joinParts cs
  | [] => []

/-- The path of the setting that a variable stands for, if it stands for one. -/
def settingName? (key : String) : Option String :=
  let name := (lower key).toList
  if variableStart.isPrefixOf name then
    some (String.ofList (joinParts (name.drop variableStart.length)))
  else none

/-- The scalar that the text of a variable stands for: a truth value, an integer, a float or
a text, the first of these that it can be. -/
def scalarOf (text : String) : Scalar :=
  if lower text = "true" then .bool true
  else if lower text = "false" then .bool false
  else match readInt64 text with
    | .ok n => .int n
    | .error _ =>
      match Decimal.readFloat? text with
      | some x => .float x
      | none => .text text

/-- The settings among the variables. -/
def Variables.settings (vars : Variables) : List (String × Setting) :=
  vars.filterMap fun (name, text) =>
    (settingName? name).map fun path => (path, .scalar (scalarOf text) (some .environment))

/-! ## Layers -/

/-- Lays the settings of a file over `target`. -/
def Source.over (s : Source) (target : Setting) : Except Fault Setting :=
  match s.settings? with
  | some settings => .ok (target.overlay settings)
  | none => .error .malformed

/-- Lays the settings of a file that need not be there over `target`. -/
def Folder.over (f : Folder) (name : String) (target : Setting) : Except Fault Setting :=
  match f.source? name with
  | some s => s.over target
  | none => .ok target

/-- The name of the file of variables. -/
def variablesFile : String :=
  ".env"

/-- The variables, with those of the file of variables added. -/
def Variables.complete (vars : Variables) (f : Folder) : Except Fault Variables :=
  match f.read? [variablesFile] with
  | none => .ok vars
  | some text =>
    match vars.load (dropByteOrderMark text) with
    | .ok vars => .ok vars
    | .error line => .error (.badLine line)

/-- The deployment that the variables name. -/
def Variables.deployment (vars : Variables) : String :=
  (vars.lookup "PLAZA_ENV").getD "development"

/-- Loads the configuration from the files of a folder and the variables
of the environment. -/
def load (f : Folder) (vars : Variables) : Except Fault Config := do
  let vars ← vars.complete f
  let layers ← f.over "config/default" .empty
  let layers ← f.over ("config/" ++ vars.deployment) layers
  ofSetting (layers.overlay vars.settings)

/-- Reads the configuration from one file and the variables of the environment. -/
def ofFile (f : Folder) (vars : Variables) (name : String) : Except Fault Config := do
  match f.source? name with
  | none => throw .unreadable
  | some s => ofSetting ((← s.over .empty).overlay vars.settings)

end Community.Config
