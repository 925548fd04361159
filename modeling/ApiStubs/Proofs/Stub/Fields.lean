import ApiStubs.Stub.Layout
import ApiStubs.Stub.Members
import ApiStubs.Proofs.Text.Search

/-!
# The field lines of a namespace

The fields stand under each other, each behind the comment of its description, and
every one of them has its line end.
-/

namespace ApiStubs
namespace Stub

/-- The line that declares a field. -/
def Field.line (field : Field) : String :=
  "---@field " ++ field.name ++ " " ++ field.type

/-- A field with its comment, each with a line end. -/
def Field.text (field : Field) : String :=
  (if field.description = "" then "" else comment commentMark field.description ++ "\n") ++
    field.line ++ "\n"

theorem Field.join_lines (field : Field) :
    String.join (field.lines.map (· ++ "\n")) = field.text := by
  unfold Field.lines Field.text Field.line
  split <;> simp [String.append_assoc]

theorem fieldsText_eq (fields : List Field) :
    fieldsText fields = String.join (fields.map Field.text) := by
  have hlines : String.join ((fields.flatMap Field.lines).map (· ++ "\n")) =
      String.join (fields.map Field.text) := by
    induction fields with
    | nil => rfl
    | cons field fields ih =>
        rw [List.flatMap_cons, List.map_append, String.join_append, Field.join_lines, ih,
          List.map_cons, String.join_cons]
  rw [← hlines, fieldsText]
  cases fields with
  | nil => rfl
  | cons field fields =>
      have hline : field.line ∈ (field :: fields).flatMap Field.lines := by
        rw [List.flatMap_cons]
        exact List.mem_append_left _ (List.mem_append_right _ (List.mem_singleton.mpr rfl))
      have hvisible : field.line ≠ "" := by
        unfold Field.line
        simp [String.append_eq_empty_iff]
      simp only [Text.joinWith_ne_empty hline hvisible, if_false]
      exact Text.joinWith_newline (List.ne_nil_of_mem hline)

theorem namespaceText_eq (classPrefix space fields body : String) :
    namespaceText classPrefix space fields body =
      "---@class " ++ classPrefix ++ "." ++ space ++ "\n" ++ fields ++
        space ++ " = {}\n\n" ++ body ++ "\n\nreturn " ++ space := rfl

end Stub
end ApiStubs
