import ApiStubs.Pattern.Parser

/-!
# Matching patterns

Backtracking with continuations: a part tries its ways to match in order, and
hands each state to what follows until one succeeds.  Inside a lookbehind the
text is read backwards.  A repetition without progress is given up once the
least count is reached, which bounds the number of repetitions by the least
count and the length of the text.
-/

namespace ApiStubs
namespace Pattern

/-- A position, and where each group has matched last. -/
structure State where
  position : Nat
  groups : List (Nat × Nat × Nat)

abbrev Next := State → Option State

/-- Forgets the groups numbered above `before` and up to `after`. -/
def State.forget (before after : Nat) (state : State) : State :=
  { state with
    groups := state.groups.filter (fun g => !(before < g.1 && g.1 ≤ after)) }

def State.record (index first last : Nat) (state : State) : State :=
  { state with
    groups := (index, first, last) :: state.groups.filter (·.1 != index) }

def isWordUnit (u : Nat) : Bool :=
  wordRanges.any (fun r => r.1 ≤ u && u ≤ r.2)

def wordAt (text : Array Nat) (position : Nat) : Bool :=
  (text[position]?).any isWordUnit

/-- A word starts or ends at the position. -/
def atWordEdge (text : Array Nat) (position : Nat) : Bool :=
  (position != 0 && wordAt text (position - 1)) != wordAt text position

/-- Takes one unit in the direction of reading. -/
def step? (text : Array Nat) (forward : Bool) (test : Nat → Bool)
    (state : State) : Option State :=
  if forward then
    match text[state.position]? with
    | some u => if test u then some { state with position := state.position + 1 } else none
    | none => none
  else if state.position = 0 then none
  else
    match text[state.position - 1]? with
    | some u => if test u then some { state with position := state.position - 1 } else none
    | none => none

/-- Takes the units of an earlier match again. -/
def takeAgain? (text : Array Nat) (forward : Bool) (first last : Nat)
    (state : State) : Option State :=
  let units := (text.extract first last).toList
  (if forward then units else units.reverse).foldl
    (fun state? u => state?.bind (step? text forward (· == u))) (some state)

/-- Repeats a part; `limit` is how often it may still occur. -/
def repeatPart (body : State → Next → Option State) (clear : State → State)
    (lazy : Bool) : Nat → Nat → Option Nat → State → Next → Option State
  | 0, _, _, _, _ => none
  | fuel + 1, least, limit, state, next =>
      if limit = some 0 then next state
      else
        let again (after : State) : Option State :=
          if least = 0 ∧ after.position = state.position then none
          else
            repeatPart body clear lazy fuel (least - 1) (limit.map (· - 1))
              after next
        if 0 < least then body (clear state) again
        else if lazy then
          match next state with
          | some final => some final
          | none => body (clear state) again
        else
          match body (clear state) again with
          | some final => some final
          | none => next state

def Compiled.groupNumber (pattern : Compiled) : GroupRef → Nat
  | .number n => n
  | .named name => (pattern.names.lookup name).getD 0

def run (pattern : Compiled) (text : Array Nat) :
    Node → (forward : Bool) → State → Next → Option State
  | .empty, _, state, next => next state
  | .unit u, forward, state, next =>
      (step? text forward (· == u) state).bind next
  | .set units, forward, state, next =>
      (step? text forward units.holds state).bind next
  | .textStart, _, state, next =>
      if state.position = 0 then next state else none
  | .textEnd, _, state, next =>
      if state.position = text.size then next state else none
  | .wordEdge negated, _, state, next =>
      if atWordEdge text state.position != negated then next state else none
  | .capture index body, forward, state, next =>
      run pattern text body forward state (fun after =>
        next
          (if forward then after.record index state.position after.position
           else after.record index after.position state.position))
  | .seq first second, forward, state, next =>
      if forward then
        run pattern text first forward state
          (fun middle => run pattern text second forward middle next)
      else
        run pattern text second forward state
          (fun middle => run pattern text first forward middle next)
  | .alt first second, forward, state, next =>
      match run pattern text first forward state next with
      | some final => some final
      | none => run pattern text second forward state next
  | .many bounds before after body, forward, state, next =>
      let least := min bounds.least (text.size + 1)
      repeatPart (run pattern text body forward) (State.forget before after)
        bounds.lazy (least + text.size + 2) least bounds.most state next
  | .recall group, forward, state, next =>
      match state.groups.lookup (pattern.groupNumber group) with
      | none => next state
      | some (first, last) => (takeAgain? text forward first last state).bind next
  | .look ahead negated body, _, state, next =>
      match run pattern text body ahead state some with
      | some after =>
          if negated then none
          else next { after with position := state.position }
      | none => if negated then next state else none

/-- The pattern matches some part of the text. -/
def Compiled.test (pattern : Compiled) (text : String) : Bool :=
  let us := (Text.units text).toArray
  (List.range (us.size + 1)).any
    (fun start => (run pattern us pattern.body true ⟨start, []⟩ some).isSome)

end Pattern
end ApiStubs
