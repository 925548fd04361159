/-!
# Forms of text

Texts are kept as characters where they are worked with, and as code units where they are
read from a document, since units need not make characters.  What only compares texts and
shows them does not look at the form.
-/

namespace ApiStubs
namespace Text

/-- A form in which texts are kept.  It has all texts, and shows each of them as it is. -/
class Form (τ : Type) where
  ofText : String → τ
  toText : τ → String
  toText_ofText : ∀ text, toText (ofText text) = text

instance : Form String := ⟨id, id, fun _ => rfl⟩

namespace Form

variable {τ : Type} [Form τ]

attribute [simp] toText_ofText

@[simp]
theorem ofText_string (text : String) : (ofText text : String) = text := rfl

@[simp]
theorem toText_string (text : String) : toText text = text := rfl

theorem ofText_injective : Function.Injective (ofText : String → τ) := by
  intro first second heq
  rw [← toText_ofText (τ := τ) first, heq, toText_ofText]

@[simp]
theorem ofText_inj {first second : String} :
    (ofText first : τ) = ofText second ↔ first = second :=
  ⟨fun heq => ofText_injective heq, congrArg ofText⟩

end Form
end Text
end ApiStubs
