import ApiStubs.Settings
import ApiStubs.Signature

/-!
# Rules of rendering

What the settings say about declarations, with their patterns compiled.
-/

namespace ApiStubs
namespace Stub

structure Rules where
  types : TypeRules
  names : Table String
  localNames : Table (Table String)
  generics : Table String
  ignored : List Pattern.Compiled

/-- A pattern that cannot be compiled, as it was handed to the compiler. -/
structure InvalidPattern where
  source : String
  fault : Pattern.Fault
  deriving DecidableEq, Repr

def InvalidPattern.message (invalid : InvalidPattern) : String :=
  invalid.fault.message invalid.source

/-- A pattern that has to match the whole of a text. -/
def compileWhole (pattern : String) : Except InvalidPattern Pattern.Compiled :=
  let source := Pattern.wholeSource pattern
  (Pattern.compile source).mapError (InvalidPattern.mk source)

def compileReplacement (entry : String × String) :
    Except InvalidPattern TypeReplacement := do
  return ⟨← compileWhole entry.1, entry.2⟩

def typeRules (settings : Settings) (strict : Bool) :
    Except InvalidPattern TypeRules := do
  return {
    strict
    sentinel := settings.types.unknown
    known := settings.types.known ++ settings.types.classes ++ settings.types.aliases
    replacements := ← settings.replacements.types.entries.mapM compileReplacement
    perPosition := settings.replacements.localTypes }

def Rules.ofSettings (settings : Settings) (strict : Bool) :
    Except InvalidPattern Rules := do
  let types ← typeRules settings strict
  let ignored ← settings.ignoredFunctions.mapM compileWhole
  return {
    types
    names := settings.replacements.names
    localNames := settings.replacements.localNames
    generics := settings.types.generics
    ignored }

end Stub
end ApiStubs
