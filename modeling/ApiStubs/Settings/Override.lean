import ApiStubs.Settings

/-!
# Overrides of settings

An override replaces the fields that it gives and keeps the others.
-/

namespace ApiStubs
namespace Settings

structure Override where
  folder : Option String := none
  extension : Option String := none
  generatorUrl : Option String := none
  product : Option String := none
  classPrefix : Option String := none
  disabledDiagnostics : Option (List String) := none
  known : Option (List String) := none
  unknown : Option String := none
  classes : Option (List String) := none
  aliases : Option (List String) := none
  generics : Option (Table String) := none
  replacedTypes : Option (Table String) := none
  replacedNames : Option (Table String) := none
  localTypes : Option (Table (Table String)) := none
  localNames : Option (Table (Table String)) := none
  ignoredFunctions : Option (List String) := none
  strict : Option Bool := none
  debug : Option Bool := none
  deriving DecidableEq, Repr

def merge (base : Settings) (upper : Override) : Settings where
  output := {
    folder := upper.folder.getD base.output.folder
    extension := upper.extension.getD base.output.extension
    generatorUrl := upper.generatorUrl.getD base.output.generatorUrl
    product := upper.product.getD base.output.product
    classPrefix := upper.classPrefix.getD base.output.classPrefix
    disabledDiagnostics :=
      upper.disabledDiagnostics.getD base.output.disabledDiagnostics }
  types := {
    known := upper.known.getD base.types.known
    unknown := upper.unknown.getD base.types.unknown
    classes := upper.classes.getD base.types.classes
    aliases := upper.aliases.getD base.types.aliases
    generics := upper.generics.getD base.types.generics }
  replacements := {
    types := upper.replacedTypes.getD base.replacements.types
    names := upper.replacedNames.getD base.replacements.names
    localTypes := upper.localTypes.getD base.replacements.localTypes
    localNames := upper.localNames.getD base.replacements.localNames }
  ignoredFunctions := upper.ignoredFunctions.getD base.ignoredFunctions
  generation := {
    strict := upper.strict.getD base.generation.strict
    debug := upper.debug.getD base.generation.debug }

@[simp]
theorem merge_empty (base : Settings) : base.merge {} = base := rfl

end Settings
end ApiStubs
