/-
Loading a configuration from a file. The extension of the file's name tells the
format.
-/

import CqlDriver.Config.FileSettings
import CqlDriver.Config.Toml
import CqlDriver.Config.Yaml

namespace CqlDriver.ConfigFile

/-- The extension of a name: what stands behind its last point, unless the point is
the first character. -/
def extension? (name : String) : Option String :=
  let reversed := name.toList.reverse
  let behind := reversed.takeWhile (· != '.')
  let before := (reversed.dropWhile (· != '.')).drop 1
  if before.isEmpty || name == ".." then none else some (String.ofList behind.reverse)

def format? (name : String) : Except ConfigFault FileFormat :=
  match extension? name with
  | none => .error .noExtension
  | some ext =>
      if ext = "yaml" ∨ ext = "yml" then .ok .yaml
      else if ext = "toml" then .ok .toml
      else .error (.unknownExtension ext)

/-- The settings that a text in a format gives. A list may stand for a table where
values have types of their own. -/
def read? (format : FileFormat) (text : String) : Option FileSettings :=
  match format with
  | .yaml => (Yaml.parse? text).bind (FileSettings.read false)
  | .toml => (Toml.parse? text).bind (FileSettings.read true)

def load (name : String) (content : Option String) : Except ConfigFault DriverConfig := do
  let format ← format? name
  match content with
  | none => throw (.missingFile format)
  | some text =>
      match read? format text with
      | none => throw (.malformedFile format)
      | some file => file.build

end CqlDriver.ConfigFile
