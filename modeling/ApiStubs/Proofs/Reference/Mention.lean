import ApiStubs.Reference.Mention
import ApiStubs.Proofs.Constant.Catalog
import ApiStubs.Proofs.Text.Search

/-!
# Mentions are parts of the text

A mention is read off consecutive characters: first the identifiers of its space,
with dots between them, and then a dot.  So a text that mentions a space holds the
name of the space with a dot behind it, and nothing else about the catalog matters
to a mention than the names that are registered in its space.
-/

namespace ApiStubs
namespace Reference

theorem spaceOf_singleton (identifier : List Char) :
    spaceOf [identifier] = String.ofList identifier := by
  rw [spaceOf, Text.joinWith, List.reverse_singleton, List.map_singleton,
    String.intercalate_singleton]

theorem spaceOf_cons {chain : List (List Char)} (hne : chain ≠ []) (last : List Char) :
    spaceOf (last :: chain) = spaceOf chain ++ "." ++ String.ofList last := by
  have hbefore : chain.reverse.map String.ofList ≠ [] := by
    simpa using hne
  have hlast : [last].map String.ofList ≠ [] := by simp
  unfold spaceOf Text.joinWith
  rw [List.reverse_cons, List.map_append,
    String.intercalate_append_of_ne_nil hbefore hlast, List.map_singleton,
    String.intercalate_singleton]

/-- The character that is read next belongs to the last identifier. -/
theorem spaceOf_push (c : Char) (current : List Char) (before : List (List Char)) :
    (spaceOf ((c :: current).reverse :: before)).toList =
      (spaceOf (current.reverse :: before)).toList ++ [c] := by
  by_cases hbefore : before = []
  · subst hbefore
    simp [spaceOf_singleton]
  · simp [spaceOf_cons hbefore]

/-- Reading a chain of identifiers moves characters and loses none. -/
theorem readChain_append (current : List Char) (before : List (List Char))
    (cs : List Char) :
    (spaceOf (readChain current before cs).1).toList ++ (readChain current before cs).2 =
      (spaceOf (current.reverse :: before)).toList ++ cs := by
  fun_induction readChain current before cs with
  | case1 current before => rfl
  | case2 current before c rest hword ih =>
      rw [ih, spaceOf_push, List.append_assoc, List.singleton_append]
  | case3 current before hword => rfl
  | case4 current before d after hstart hdot ih =>
      have hchain : current.reverse :: before ≠ [] := List.cons_ne_nil _ _
      rw [ih, List.reverse_singleton, spaceOf_cons hchain]
      simp
  | case5 current before d after hstart hdot => rfl
  | case6 current before c rest hword hdot => rfl

/-- A mention that is read starts with its space and a dot. -/
theorem readMention?_isPrefix {cs behind : List Char} {mention : Mention}
    (hread : readMention? cs = some (mention, behind)) :
    mention.space.toList ++ ['.'] <+: cs := by
  cases cs with
  | nil => contradiction
  | cons c cs =>
      have hchars : (spaceOf (readChain [c] [] cs).1).toList ++ (readChain [c] [] cs).2 =
          c :: cs := by
        rw [readChain_append, List.reverse_singleton, spaceOf_singleton,
          String.toList_ofList, List.singleton_append]
      rw [← hchars]
      rw [readMention?] at hread
      split at hread
      next =>
        simp only at hread
        split at hread
        next name hname =>
          -- The whole chain is the space, and a dot comes next.
          simp only [Option.some.injEq, Prod.mk.injEq] at hread
          obtain ⟨rfl, -⟩ := hread
          unfold nameBehind? at hname
          split at hname
          next rest hbehind =>
            rw [hbehind]
            exact ⟨rest, by simp⟩
          next => contradiction
        next =>
          split at hread
          next last space spaces hchain =>
            -- The last identifier of the chain has a dot before it.
            simp only [Option.some.injEq, Prod.mk.injEq] at hread
            obtain ⟨rfl, -⟩ := hread
            rw [hchain, spaceOf_cons (List.cons_ne_nil _ _)]
            exact ⟨last ++ (readChain [c] [] cs).2, by simp⟩
          next => contradiction
      next => contradiction

/-- Every mention is read where some end of the text begins. -/
theorem exists_readMention?_of_mem {skip : Nat} {cs : List Char} {mention : Mention}
    (hmention : mention ∈ mentionsFrom skip cs) :
    ∃ inner behind, inner <:+ cs ∧ readMention? inner = some (mention, behind) := by
  fun_induction mentionsFrom skip cs with
  | case1 skip => contradiction
  | case2 skip c cs ih =>
      obtain ⟨inner, behind, hinner, hread⟩ := ih hmention
      exact ⟨inner, behind, hinner.trans (List.suffix_cons c cs), hread⟩
  | case3 c cs hread ih =>
      obtain ⟨inner, behind, hinner, hread⟩ := ih hmention
      exact ⟨inner, behind, hinner.trans (List.suffix_cons c cs), hread⟩
  | case4 c cs found behind hread ih =>
      rcases List.mem_cons.mp hmention with rfl | hlater
      · exact ⟨c :: cs, behind, List.suffix_rfl, hread⟩
      · obtain ⟨inner, behind, hinner, hread⟩ := ih hlater
        exact ⟨inner, behind, hinner.trans (List.suffix_cons c cs), hread⟩

theorem holds_of_mem_mentions {text : String} {mention : Mention}
    (hmention : mention ∈ mentions text) :
    Text.holds text (mention.space ++ ".") = true := by
  obtain ⟨inner, behind, hinner, hread⟩ := exists_readMention?_of_mem hmention
  rw [Text.holds_iff, String.toList_append]
  exact (readMention?_isPrefix hread).isInfix.trans hinner.isInfix

end Reference
end ApiStubs
