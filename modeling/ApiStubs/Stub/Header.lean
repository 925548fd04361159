import ApiStubs.Stub.Comment

/-!
# The head of a stub

A block comment that tells where the stub comes from, and the diagnostics that
are switched off.
-/

namespace ApiStubs
namespace Stub

structure Header where
  generatorUrl : String
  product : String
  version : String
  title : String
  description : String
  deriving DecidableEq, Repr

/-- A description that only repeats the title is left out. -/
def Header.describes (header : Header) : Bool :=
  header.description != "" && header.description != header.title

def Header.text (header : Header) : String :=
  "--[[\n  Generated with " ++ header.generatorUrl ++ "\n  " ++
    header.product ++ " " ++ header.version ++ "\n\n  " ++
    Markup.plainText header.title ++ "\n" ++
    (if header.describes then "\n" ++ comment "  " header.description ++ "\n" else "") ++
    "--]]"

def diagnostics (names : List String) : String :=
  Text.joinWith "\n"
    ("---@meta" :: names.map ("---@diagnostic disable: " ++ ·))

end Stub
end ApiStubs
