import ApiStubs.Proofs.Generation
import ApiStubs.Proofs.Generation.ModuleOrder
import ApiStubs.Proofs.Sorting

/-!
# The order of the elements

Declarations are sorted before they are rendered, and constants declare nothing, so a run
sees the order of the elements of a module only in two ways: constants are registered in
their order, and elements of one rank and one name are rendered in theirs if they can be
rendered at all.  A rearrangement within the modules that keeps these two changes nothing
about a run.
-/

namespace ApiStubs

def Element.isConstant : Element → Bool
  | .constant _ _ => true
  | _ => false

/-- The other elements of one rank and one name that can be rendered, in their order. -/
def Element.peers (rank : Nat) (name : String) (elements : List Element) : List Element :=
  (elements.filter (fun element => !element.isConstant && element.isRenderable)).filter
    (fun element => Stub.elementRank element = rank && element.name = name)

/-- The same elements, with the constants in the same order, and so for any other ones of
one rank and one name that can be rendered. -/
structure Element.Reordered (left right : List Element) : Prop where
  perm : left.Perm right
  constants : left.filter Element.isConstant = right.filter Element.isConstant
  peers : ∀ rank name, Element.peers rank name left = Element.peers rank name right

/-- Modules that differ in the order of their elements only. -/
structure ApiModule.Reordered (left right : ApiModule) : Prop where
  space : left.space = right.space
  brief : left.brief = right.brief
  description : left.description = right.description
  elements : Element.Reordered left.elements right.elements

/-! ## Merging -/

theorem Element.Reordered.append {left right left' right' : List Element}
    (hfirst : Element.Reordered left right) (hsecond : Element.Reordered left' right') :
    Element.Reordered (left ++ left') (right ++ right') where
  perm := hfirst.perm.append hsecond.perm
  constants := by
    rw [List.filter_append, List.filter_append, hfirst.constants, hsecond.constants]
  peers rank name := by
    have hpeers := hfirst.peers rank name
    have hpeers' := hsecond.peers rank name
    unfold Element.peers at hpeers hpeers' ⊢
    rw [List.filter_append, List.filter_append, List.filter_append, List.filter_append,
      hpeers, hpeers']

namespace ApiModule

theorem Reordered.absorb {first first' later later' : ApiModule}
    (hfirst : first.Reordered first') (hlater : later.Reordered later') :
    (first.absorb later).Reordered (first'.absorb later') where
  space := hfirst.space
  brief := hfirst.brief
  description := by
    simp only [ApiModule.absorb, hfirst.description, hlater.description, hlater.brief]
  elements := hfirst.elements.append hlater.elements

theorem derivedSpace_of_named {m : ApiModule} (hnamed : m.space ≠ "") :
    m.derivedSpace = m.space := by
  rw [derivedSpace, if_neg hnamed]

theorem forall₂_file {m m' : ApiModule} (hm : m.Reordered m') (hnamed : m.space ≠ "")
    {merged merged' : List ApiModule} (hmerged : List.Forall₂ Reordered merged merged') :
    List.Forall₂ Reordered (file m merged) (file m' merged') := by
  have hspace : m.derivedSpace = m.space := derivedSpace_of_named hnamed
  have hspace' : m'.derivedSpace = m.space := by
    rw [derivedSpace_of_named (hm.space ▸ hnamed), hm.space]
  induction hmerged with
  | nil =>
      refine .cons ⟨?_, hm.brief, hm.description, hm.elements⟩ .nil
      exact hspace.trans hspace'.symm
  | cons hfirst hrest ih =>
      simp only [file, hspace, hspace', ← hfirst.space]
      split
      next => exact .cons (hfirst.absorb hm) hrest
      next => exact .cons hfirst ih

theorem forall₂_merge {left right : List ApiModule}
    (hmodules : List.Forall₂ Reordered left right) (hnamed : ∀ m ∈ left, m.space ≠ "") :
    List.Forall₂ Reordered (merge left) (merge right) := by
  have hfold : ∀ {merged merged'}, List.Forall₂ Reordered merged merged' →
      List.Forall₂ Reordered (left.foldl (fun merged m => file m merged) merged)
        (right.foldl (fun merged m => file m merged) merged') := by
    induction hmodules with
    | nil => exact id
    | cons hm _ ih =>
        intro merged merged' hmerged
        apply ih (fun m hmem => hnamed m (List.mem_cons_of_mem _ hmem))
        exact forall₂_file hm (hnamed _ List.mem_cons_self) hmerged
  exact hfold .nil

end ApiModule

/-! ## Sorting and rendering -/

namespace Stub

theorem elementLE_iff {a b : Element} :
    elementLE a b = true ↔ elementRank a < elementRank b ∨
      elementRank a = elementRank b ∧ Text.unitsLE a.name b.name = true := by
  simp [elementLE]

theorem elementLE_trans (a b c : Element) (hab : elementLE a b = true)
    (hbc : elementLE b c = true) : elementLE a c = true := by
  rw [elementLE_iff] at hab hbc ⊢
  rcases hab with hlt | ⟨hrank, hname⟩
  · rcases hbc with hlt' | ⟨hrank', -⟩
    · exact .inl (hlt.trans hlt')
    · exact .inl (hrank' ▸ hlt)
  · rcases hbc with hlt' | ⟨hrank', hname'⟩
    · exact .inl (hrank ▸ hlt')
    · exact .inr ⟨hrank.trans hrank', Text.unitsLE_trans _ _ _ hname hname'⟩

theorem elementLE_total (a b : Element) : (elementLE a b || elementLE b a) = true := by
  rw [Bool.or_eq_true, elementLE_iff, elementLE_iff]
  rcases Nat.lt_trichotomy (elementRank a) (elementRank b) with hlt | hrank | hgt
  · exact .inl (.inl hlt)
  · have hnames := Text.unitsLE_total a.name b.name
    rw [Bool.or_eq_true] at hnames
    rcases hnames with hname | hname
    · exact .inl (.inr ⟨hrank, hname⟩)
    · exact .inr (.inr ⟨hrank.symm, hname⟩)
  · exact .inr (.inl hgt)

/-- The elements that compare alike are those of one rank and one name. -/
theorem elementLE_both (a b : Element) :
    (elementLE a b && elementLE b a) =
      (decide (elementRank b = elementRank a) && decide (b.name = a.name)) := by
  rw [Bool.eq_iff_iff, Bool.and_eq_true, elementLE_iff, elementLE_iff]
  simp only [Bool.and_eq_true, decide_eq_true_eq]
  constructor
  · rintro ⟨hlt | ⟨hrank, hname⟩, hgt | ⟨hrank', hname'⟩⟩
    · omega
    · omega
    · omega
    · exact ⟨hrank', Text.unitsLE_antisymm hname' hname⟩
  · rintro ⟨hrank, hname⟩
    have hself : Text.unitsLE a.name a.name = true := by
      simpa using Text.unitsLE_total a.name a.name
    rw [hrank, hname]
    exact ⟨.inr ⟨rfl, hself⟩, .inr ⟨rfl, hself⟩⟩

/-- Constants declare nothing and change nothing while the others are declared. -/
theorem declare_filter (rules : Rules) (elements : List Element) :
    rules.declare (elements.filter (fun element => !element.isConstant)) =
      rules.declare elements := by
  induction elements with
  | nil => rfl
  | cons element rest ih =>
      cases element with
      | constant name description =>
          rw [List.filter_cons_of_neg (by simp [Element.isConstant]), ih]
          simp [Rules.declare, Rules.render]
      | _ =>
          rw [List.filter_cons_of_pos (by simp [Element.isConstant]), Rules.declare,
            Rules.declare, ih]

theorem declare_eq_of_reordered (rules : Rules) {left right : List Element}
    (hreordered : Element.Reordered left right) :
    rules.declare (sortElements (left.filter Element.isRenderable)) =
      rules.declare (sortElements (right.filter Element.isRenderable)) := by
  rw [← declare_filter rules (sortElements _), ← declare_filter rules (sortElements _),
    sortElements, sortElements]
  congr 1
  apply Sorting.filter_mergeSort_eq elementLE_trans elementLE_total
  intro element
  have hties : ∀ elements : List Element,
      Sorting.ties elementLE element ((elements.filter Element.isRenderable).filter
        (fun other => !other.isConstant)) =
      Element.peers (elementRank element) element.name elements := by
    intro elements
    rw [List.filter_filter, Sorting.ties, Element.peers]
    simp only [elementLE_both]
  rw [hties, hties, hreordered.peers]

end Stub

namespace Generation

open Rendering

theorem forall₂_order {left right : List ApiModule}
    (hmodules : List.Forall₂ ApiModule.Reordered left right)
    (hnamed : ∀ m ∈ left, m.space ≠ "") :
    List.Forall₂ ApiModule.Reordered (order left) (order right) := by
  apply Sorting.forall₂_mergeSort (ApiModule.forall₂_merge hmodules hnamed)
  intro a b a' b' ha hb
  rw [ha.space, hb.space]

theorem foldl_registerElement_filter (elements : List Element) (catalog : Catalog) :
    (elements.filter Element.isConstant).foldl registerElement catalog =
      elements.foldl registerElement catalog := by
  rw [List.foldl_filter]
  congr 1
  funext catalog element
  cases element <;> rfl

/-- Only the order of the constants decides what is registered. -/
theorem registerAll_eq_of_reordered {left right : List ApiModule}
    (hmodules : List.Forall₂ ApiModule.Reordered left right) :
    registerAll left = registerAll right := by
  have hconstants : (left.flatMap (·.elements)).filter Element.isConstant =
      (right.flatMap (·.elements)).filter Element.isConstant := by
    induction hmodules with
    | nil => rfl
    | cons hm _ ih =>
        rw [List.flatMap_cons, List.flatMap_cons, List.filter_append, List.filter_append,
          hm.elements.constants, ih]
  rw [registerAll, ← foldl_registerElement_filter, hconstants, foldl_registerElement_filter,
    registerAll]

/-- What is made of rendered modules is the same if it does not see the order of elements. -/
theorem map_renderModules_eq (rules : Stub.Rules) {β : Type} {f : RenderedModule → β}
    (hf : ∀ {m m' : ApiModule} (declarations), m.Reordered m' →
      f ⟨m, declarations⟩ = f ⟨m', declarations⟩)
    {left right : List ApiModule} (hmodules : List.Forall₂ ApiModule.Reordered left right) :
    List.map f <$> renderModules rules left = List.map f <$> renderModules rules right := by
  induction hmodules with
  | nil => rfl
  | @cons m m' rest rest' hm _ ih =>
      have hempty : (m.elements.filter Element.isRenderable).isEmpty =
          (m'.elements.filter Element.isRenderable).isEmpty :=
        (hm.elements.perm.filter _).isEmpty_eq
      rw [renderModules, renderModules]
      simp only [hempty, hm.space, Stub.declare_eq_of_reordered rules hm.elements]
      split
      next => rw [map_bind, map_bind, ih]
      next =>
        rw [map_bind, map_bind]
        congr 1
        funext declarations
        -- What is made of the others is made before this module is put in front of it.
        have hfront : ∀ (m : ApiModule) (rest : List ApiModule),
            List.map f <$> (do
              let others ← renderModules rules rest
              return ⟨m, declarations⟩ :: others) = (do
              let others ← List.map f <$> renderModules rules rest
              return f ⟨m, declarations⟩ :: others) := by
          intro m rest
          rw [map_bind, bind_map_left]
          simp only [map_pure, List.map_cons]
        rw [hfront, hfront, ih, hf declarations hm]

theorem compose_eq_of_reordered (registry : Registry) (options : Options)
    {m m' : ApiModule} (declarations : List Stub.Declaration) (hm : m.Reordered m') :
    compose registry options ⟨m, declarations⟩ =
      compose registry options ⟨m', declarations⟩ := by
  have hdeclares : declaresNamespace m = declaresNamespace m' := by
    unfold declaresNamespace
    rw [hm.space]
    exact hm.elements.perm.any_eq
  simp only [compose, hdeclares, hm.space, hm.brief, hm.description]

theorem finish_eq_of_reordered (options : Options) (rules : Stub.Rules)
    {left right : List ApiModule} (hmodules : List.Forall₂ ApiModule.Reordered left right)
    (session : Session) :
    finish options rules left session = finish options rules right session := by
  cases hleft : outcome (renderModules rules left) session with
  | mk result reached =>
      have hmap := congrArg (fun rendering => outcome rendering session)
        (map_renderModules_eq rules
          (compose_eq_of_reordered reached.registry options) hmodules)
      simp only [outcome_map, hleft] at hmap
      cases hright : outcome (renderModules rules right) session with
      | mk result' reached' =>
          rw [hright, Prod.mk.injEq] at hmap
          obtain ⟨hresult, rfl⟩ := hmap
          cases result with
          | error unknown =>
              cases result' with
              | error unknown' =>
                  cases hresult
                  rw [finish_of_error hleft, finish_of_error hright]
              | ok rendered => contradiction
          | ok rendered =>
              cases result' with
              | error unknown => contradiction
              | ok rendered' =>
                  have hunits := Except.ok.inj hresult
                  have hlength := congrArg List.length hunits
                  rw [List.length_map, List.length_map] at hlength
                  rw [finish_of_ok hleft, finish_of_ok hright, hunits, hlength]

/-- A run does not depend on the order of the elements of a module, as long as the constants
keep theirs and the other elements of one rank and one name that can be rendered keep theirs:
the stubs, what is reported and how a run fails are the same. -/
theorem generate_eq_of_reordered {left right : List ApiModule}
    (hmodules : List.Forall₂ ApiModule.Reordered left right)
    (hnamed : ∀ m ∈ left, m.space ≠ "") (options : Options) :
    generate left options = generate right options := by
  have horder := forall₂_order hmodules hnamed
  unfold generate
  simp only [hmodules.length_eq, registerAll_eq_of_reordered horder]
  split
  next => rfl
  next rules _ => exact finish_eq_of_reordered options rules horder _

/-- Two functions of one name keep their order, and so do the constants of their alias, while
a variable moves to the front and one of the functions behind a constant.  Two elements of
one name that are not supported change places. -/
theorem generate_eq_of_reordered_overloads :
    let depth : Element := .variable "gui.depth" none
    let on : Element := .constant "gui.MODE_ON" none
    let off : Element := .constant "gui.MODE_OFF" none
    let set : Element := .function "gui.set" none
      [⟨"mode", ["gui.MODE_ON", "gui.MODE_OFF"], none, none⟩] []
    let setAll : Element := .function "gui.set" (some "All at once.") [] []
    let done : Element := .unsupported "gui.done" "message"
    let seen : Element := .unsupported "gui.done" "event"
    let left : ApiModule := ⟨"gui", "GUI", "", [set, on, setAll, depth, off, done, seen]⟩
    let right : ApiModule := ⟨"gui", "GUI", "", [depth, seen, on, set, setAll, off, done]⟩
    List.Forall₂ ApiModule.Reordered [left] [right] ∧ left.space ≠ "" ∧
      generate [left] { settings := {}, version := "1.0" } =
        generate [right] { settings := {}, version := "1.0" } := by
  intro depth on off set setAll done seen left right
  have hpeers : ∀ rank name, Element.peers rank name left.elements =
      Element.peers rank name right.elements := by
    intro rank name
    have hleft : left.elements.filter
        (fun element => !element.isConstant && element.isRenderable) = [set, setAll, depth] := rfl
    have hright : right.elements.filter
        (fun element => !element.isConstant && element.isRenderable) = [depth, set, setAll] := rfl
    rw [Element.peers, Element.peers, hleft, hright]
    by_cases hrank : rank = 0
    · subst hrank
      rfl
    · have hother : (Stub.elementRank depth = rank) = False :=
        eq_false (fun h => hrank h.symm)
      simp [List.filter_cons, hother]
  have hreordered : left.Reordered right :=
    ⟨rfl, rfl, rfl, ⟨by decide, rfl, hpeers⟩⟩
  have hnamed : left.space ≠ "" := by decide
  refine ⟨.cons hreordered .nil, hnamed, ?_⟩
  exact generate_eq_of_reordered (.cons hreordered .nil) (by simpa using hnamed) _

end Generation
end ApiStubs
