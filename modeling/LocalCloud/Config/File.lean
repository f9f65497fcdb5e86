import LocalCloud.Config.Basic
import LocalCloud.Config.TomlFile
import LocalCloud.Config.YamlFile
import LocalCloud.Text.Split

/-!
# Configuration files

Files in TOML or YAML, told apart by the extensions of their names.  A file that
was asked for must be readable; the standard file counts only when it is.
-/

namespace LocalCloud

/-- The name in a path: its last part that is not empty and not a dot. -/
def Files.nameIn (path : String) : String :=
  let parts := (Text.splitString '/' path).filter fun part => part ≠ "" ∧ part ≠ "."
  parts.getLastD ""

/-- What follows the last dot of the name in a path; a name has no extension when
its only dot comes first. -/
def Files.extension? (path : String) : Option String :=
  let name := (nameIn path).toList
  let last := name.reverse.takeWhile (· != '.')
  let stem := name.take (name.length - last.length - 1)
  if stem.isEmpty ∨ nameIn path = ".." then none else some (String.ofList last.reverse)

namespace Overlay

/-- The failure for a file that is missing or not UTF-8. -/
def unreadable (path : String) : Error :=
  .config ("cannot read " ++ path ++ ": there is no such text")

/-- The failure for a file whose text is not of its format. -/
def malformed (format path : String) : Error :=
  .config <|
    "invalid " ++ format ++ " in " ++ path ++ ": not the " ++ format ++ " of a configuration"

/-- The failure for a file in another format. -/
def unsupported (path : String) : Error :=
  .config ("unsupported config format: " ++ path ++ " (expected .toml, .yaml or .yml)")

def parse (path text : String) : Except Error Overlay :=
  match (Files.extension? path).map Text.asciiLower with
  | some "toml" => Error.ofOption (malformed "TOML" path) (ofToml? text)
  | some "yaml" => Error.ofOption (malformed "YAML" path) (ofYaml? text)
  | some "yml" => Error.ofOption (malformed "YAML" path) (ofYaml? text)
  | _ => .error (unsupported path)

def load (files : Files) (path : String) : Except Error Overlay := do
  let text ← (files.text path).mapError fun _ => unreadable path
  parse path text

end Overlay

namespace Config

/-- Where the standard configuration file lies. -/
def standardPath : String := "~/.config/arrowhead/config.toml"

/-- Loads a configuration from a given file, or else from the standard file if it
is readable. -/
def load (files : Files) (path : Option String) (env : String → Option String) :
    Except Error Config := do
  let overlay ← match path with
    | some path => Overlay.load files path
    | none => .ok ((Overlay.load files standardPath).toOption.getD {})
  ofSources overlay env

end Config

end LocalCloud
