import ApiStubs.Text.Search

/-!
# Faults of module files

Why a document describes no modules.  A fault of a file names the file, too.
-/

namespace ApiStubs
namespace ApiModule

inductive Format where
  | toml
  | json
  deriving DecidableEq, Repr

def Format.name : Format → String
  | toml => "toml"
  | json => "json"

def Format.title : Format → String
  | toml => "TOML"
  | json => "JSON"

inductive Fault where
  | malformed (format : Format)
  | wrongKind (path expected found : String)
  | prohibitedKey (key path : String)
  | unknownExtension (extension path : String)
  | unreadable (path reason : String)
  | inFile (path : String) (fault : Fault)
  deriving DecidableEq, Repr

namespace Fault

def message : Fault → String
  | malformed format => "Invalid " ++ format.title ++ " syntax: malformed document"
  | wrongKind path expected found =>
      "Invalid type for '" ++ path ++ "': expected " ++ expected ++ ", got " ++ found
  | prohibitedKey key path => "Prohibited key '" ++ key ++ "' found at '" ++ path ++ "'"
  | unknownExtension extension _ =>
      "Unsupported module file extension '" ++ extension ++
        "': expected .toml or .json"
  | unreadable path reason => path ++ ": Cannot read module file: " ++ reason
  | inFile path fault => path ++ ": " ++ fault.message

/-- The file at fault, if the document is one. -/
def source? : Fault → Option String
  | unknownExtension _ path => some path
  | unreadable path _ => some path
  | inFile path _ => some path
  | _ => none

end Fault
end ApiModule
end ApiStubs
