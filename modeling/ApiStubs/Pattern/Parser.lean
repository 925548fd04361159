import ApiStubs.Pattern.Escape
import ApiStubs.Text.Identifier
import ApiStubs.Text.Units

/-!
# Reading patterns

The lenient grammar without flags: a brace that starts no count, a closing brace
and a closing square bracket stand for themselves, a number behind a backslash
is a reference only if the pattern has that many groups, and a lookahead may be
repeated.  Alternatives, sequences and groups are read by mutual recursion with
the length of the pattern as fuel.
-/

namespace ApiStubs
namespace Pattern

/-- What the whole pattern holds: the number of its groups, and named ones. -/
structure Survey where
  groups : Nat
  named : Bool

/-- Counts one more group; `mark` follows its opening bracket. -/
def Survey.open (survey : Survey) (mark : List Nat) : Survey :=
  match mark with
  | q :: rest =>
      if q != unitOf '?' then ⟨survey.groups + 1, survey.named⟩
      else
        match rest with
        | l :: inside =>
            if l = unitOf '<' && !inside.head?.any (fun s => s = unitOf '=' || s = unitOf '!')
            then ⟨survey.groups + 1, true⟩
            else survey
        | [] => survey
  | [] => ⟨survey.groups + 1, survey.named⟩

/-- Skips a set, in which brackets have no meaning. -/
def surveyFrom : (inSet escaped : Bool) → Survey → List Nat → Survey
  | _, _, survey, [] => survey
  | inSet, true, survey, _ :: us => surveyFrom inSet false survey us
  | inSet, false, survey, u :: us =>
      if u = unitOf '\\' then surveyFrom inSet true survey us
      else if inSet then surveyFrom (u != unitOf ']') false survey us
      else if u = unitOf '[' then surveyFrom true false survey us
      else if u = unitOf '(' then surveyFrom false false (survey.open us) us
      else surveyFrom false false survey us

/--
A place in the pattern with the groups opened so far, the names of those closed
and the references by name.
-/
structure Place where
  rest : List Nat
  opened : Nat
  names : List (List Nat × Nat)
  references : List (List Nat)

/-- Decimal digits as a number, and what follows. -/
def readCount (us : List Nat) : Nat × List Nat :=
  ((us.takeWhile isDigitUnit).foldl (fun total u => total * 10 + (u - unitOf '0')) 0,
    us.dropWhile isDigitUnit)

/-- The greatest number a count can give; a greater one stands for it. -/
def greatestCount : Nat := 2147483647

/-- The number of a count, and what follows. -/
def readBound (us : List Nat) : Nat × List Nat :=
  let (number, rest) := readCount us
  (min number greatestCount, rest)

def startsWithDigit : List Nat → Bool
  | u :: _ => isDigitUnit u
  | [] => false

/-- A count in braces, after the opening one: the least and greatest number. -/
def readBraces? (us : List Nat) : Option (Nat × Option Nat × List Nat) :=
  if !startsWithDigit us then none
  else
    let (least, rest) := readBound us
    match rest with
    | u :: more =>
        if u = unitOf '}' then some (least, some least, more)
        else if u = unitOf ',' then
          match more with
          | v :: after =>
              if v = unitOf '}' then some (least, none, after)
              else if startsWithDigit more then
                let (most, final) := readBound more
                match final with
                | w :: past => if w = unitOf '}' then some (least, some most, past) else none
                | [] => none
              else none
          | [] => none
        else none
    | [] => none

/-- A question mark behind a count makes it lazy. -/
def readLazy (least : Nat) (most : Option Nat) (us : List Nat) : Bounds × List Nat :=
  match us with
  | u :: rest =>
      if u = unitOf '?' then (⟨least, most, true⟩, rest)
      else (⟨least, most, false⟩, us)
  | [] => (⟨least, most, false⟩, us)

/-- How often the part before occurs, if a count follows. -/
def readBounds? (us : List Nat) : Except Fault (Option (Bounds × List Nat)) :=
  match us with
  | [] => .ok none
  | u :: rest =>
      if u = unitOf '*' then .ok (some (readLazy 0 none rest))
      else if u = unitOf '+' then .ok (some (readLazy 1 none rest))
      else if u = unitOf '?' then .ok (some (readLazy 0 (some 1) rest))
      else if u = unitOf '\x7b' then
        match readBraces? rest with
        | none => .ok none
        | some (least, most, after) =>
            if most.any (· < least) then .error .countsOutOfOrder
            else .ok (some (readLazy least most after))
      else .ok none

/-- A character that a name holds: a pair of halves counts as one. -/
def readNameChar : List Nat → Option (Nat × List Nat)
  | [] => none
  | u :: us =>
      match us with
      | v :: rest =>
          if 0xD800 ≤ u ∧ u < 0xDC00 ∧ 0xDC00 ≤ v ∧ v < 0xE000 then
            some (0x10000 + (u - 0xD800) * 0x400 + (v - 0xDC00), rest)
          else some (u, us)
      | [] => some (u, us)

/-- The digits of an escape in braces, up to the closing one. -/
def readBracedHex? (us : List Nat) : Option (Nat × List Nat) :=
  let digits := us.takeWhile (fun u => (hexValue? u).isSome)
  let value := digits.foldl (fun total u => total * 16 + (hexValue? u).getD 0) 0
  match us.dropWhile (fun u => (hexValue? u).isSome) with
  | u :: rest =>
      if u = unitOf '}' && !digits.isEmpty && value ≤ 0x10FFFF then some (value, rest)
      else none
  | [] => none

/-- An escape in a name, after the `u`; two escaped halves count as one. -/
def readNameEscape? (us : List Nat) : Option (Nat × List Nat) :=
  match us with
  | u :: rest =>
      if u = unitOf '\x7b' then readBracedHex? rest
      else do
        let (high, after) ← readHex? 4 0 us
        if 0xD800 ≤ high ∧ high < 0xDC00 then
          match after with
          | b :: e :: more =>
              if b = unitOf '\\' ∧ e = unitOf 'u' then
                match readHex? 4 0 more with
                | some (low, final) =>
                    if 0xDC00 ≤ low ∧ low < 0xE000 then
                      return (0x10000 + (high - 0xD800) * 0x400 + (low - 0xDC00), final)
                    else return (high, after)
                | none => return (high, after)
              else return (high, after)
          | _ => return (high, after)
        else return (high, after)
  | [] => none

/-- A character of a name, for which an escape may stand. -/
def readNamePart (us : List Nat) : Except Fault (Nat × List Nat) :=
  match readNameChar us with
  | none => .error .invalidGroupName
  | some (c, rest) =>
      if c = unitOf '\\' then
        match rest with
        | e :: more =>
            if e = unitOf 'u' then
              match readNameEscape? more with
              | some result => .ok result
              | none => .error .invalidUnicodeEscape
            else .error .invalidGroupName
        | [] => .error .invalidGroupName
      else .ok (c, rest)

/-- The name of a group up to its closing angle bracket, which may be an escape too. -/
def readName : Nat → (atStart : Bool) → List Nat → Except Fault (List Nat × List Nat)
  | 0, _, _ => .error .invalidGroupName
  | fuel + 1, atStart, us => do
      let (c, rest) ← readNamePart us
      let fits :=
        if atStart then Text.startsIdentifier c else Text.continuesIdentifier c
      if !atStart && c = unitOf '>' then .ok ([], rest)
      else if !fits then .error .invalidGroupName
      else do
        let (name, final) ← readName fuel false rest
        return (c :: name, final)

/-- A part of a sequence, and whether a count may follow it. -/
inductive Part where
  | plain (node : Node)
  | edge (node : Node)
  | lookbehind (node : Node)

def Part.node : Part → Node
  | plain node => node
  | edge node => node
  | lookbehind node => node

/-- A reference by number, if the pattern has a group of that number. -/
def readReference? (survey : Survey) (us : List Nat) : Option (Nat × List Nat) :=
  let (index, rest) := readCount us
  if index ≤ survey.groups && index ≤ 0xFFFF then some (index, rest) else none

/-- An escape outside a set, after the backslash. -/
def readEscape (survey : Survey) (place : Place) (us : List Nat) :
    Except Fault (Part × Place) :=
  match us with
  | [] => .error .escapeAtEnd
  | u :: rest =>
      if u = unitOf 'b' then .ok (.edge (.wordEdge false), { place with rest := rest })
      else if u = unitOf 'B' then .ok (.edge (.wordEdge true), { place with rest := rest })
      else
        match classRanges? u with
        | some members => .ok (.plain (.set ⟨false, members⟩), { place with rest := rest })
        | none =>
            if unitOf '1' ≤ u && u ≤ unitOf '9' then
              match readReference? survey us with
              | some (index, after) =>
                  .ok (.plain (.recall (.number index)), { place with rest := after })
              | none =>
                  let (unit, after) := readUnitEscape false u rest
                  .ok (.plain (.unit unit), { place with rest := after })
            else if u = unitOf 'k' && survey.named then
              match rest with
              | l :: named =>
                  if l != unitOf '<' then .error .invalidNamedReference
                  else do
                    let (name, after) ← readName (named.length + 1) true named
                    return (.plain (.recall (.named name)),
                      { place with
                        rest := after, references := name :: place.references })
              | [] => .error .invalidNamedReference
            else
              let (unit, after) := readUnitEscape false u rest
              .ok (.plain (.unit unit), { place with rest := after })

/-- What an opening bracket starts. -/
inductive Opening where
  | plain
  | capture (index : Nat) (name : Option (List Nat))
  | look (ahead negated : Bool)

/-- What a group with a body is. -/
def Opening.part : Opening → Node → Part
  | plain, body => .plain body
  | capture index _, body => .plain (.capture index body)
  | look true negated, body => .plain (.look true negated body)
  | look false negated, body => .lookbehind (.look false negated body)

/-- A group has its name from its closing bracket on; no two groups may share one. -/
def Opening.close (opening : Opening) (place : Place) : Except Fault Place :=
  match opening with
  | capture index (some name) =>
      if (place.names.lookup name).isSome then .error .duplicateGroupName
      else .ok { place with names := place.names ++ [(name, index)] }
  | _ => .ok place

/-- The start of a group, after its opening bracket. -/
def readOpening (place : Place) (us : List Nat) : Except Fault (Opening × Place) :=
  let index := place.opened + 1
  match us with
  | q :: rest =>
      if q != unitOf '?' then
        .ok (.capture index none, { place with rest := us, opened := index })
      else
        match rest with
        | k :: more =>
            if k = unitOf ':' then .ok (.plain, { place with rest := more })
            else if k = unitOf '=' then .ok (.look true false, { place with rest := more })
            else if k = unitOf '!' then .ok (.look true true, { place with rest := more })
            else if k != unitOf '<' then .error .invalidGroup
            else
              match more with
              | s :: after =>
                  if s = unitOf '=' then
                    .ok (.look false false, { place with rest := after })
                  else if s = unitOf '!' then
                    .ok (.look false true, { place with rest := after })
                  else do
                    let (name, final) ← readName (more.length + 1) true more
                    return (.capture index (some name),
                      { place with rest := final, opened := index })
              | [] => .error .invalidGroupName
        | [] => .error .invalidGroup
  | [] => .ok (.capture index none, { place with rest := us, opened := index })

/-- Adds the count that follows a part. -/
def readRepeated (opened : Nat) (part : Part) (place : Place) :
    Except Fault (Node × Place) :=
  match part with
  | .edge node => .ok (node, place)
  | _ => do
      match ← readBounds? place.rest with
      | none => return (part.node, place)
      | some (bounds, rest) =>
          match part with
          | .lookbehind _ => .error .notRepeatable
          | _ =>
              return (.many bounds opened place.opened part.node,
                { place with rest := rest })

mutual

def readAlternatives (survey : Survey) :
    Nat → Place → Except Fault (Node × Place)
  | 0, _ => .error .unterminatedGroup
  | fuel + 1, place => do
      let (first, place) ← readSequence survey fuel place
      match place.rest with
      | u :: rest =>
          if u = unitOf '|' then do
            let (second, place) ←
              readAlternatives survey fuel { place with rest := rest }
            return (.alt first second, place)
          else return (first, place)
      | [] => return (first, place)

/-- Reads up to a bar, a closing bracket or the end. -/
def readSequence (survey : Survey) : Nat → Place → Except Fault (Node × Place)
  | 0, _ => .error .unterminatedGroup
  | fuel + 1, place =>
      match place.rest with
      | [] => .ok (.empty, place)
      | u :: _ =>
          if u = unitOf '|' || u = unitOf ')' then .ok (.empty, place)
          else do
            let (part, after) ← readPart survey fuel place
            let (node, after) ← readRepeated place.opened part after
            let (rest, final) ← readSequence survey fuel after
            return (.seq node rest, final)

def readPart (survey : Survey) : Nat → Place → Except Fault (Part × Place)
  | 0, _ => .error .unterminatedGroup
  | fuel + 1, place =>
      match place.rest with
      | [] => .error .unterminatedGroup
      | u :: us =>
          if u = unitOf '*' || u = unitOf '+' || u = unitOf '?' then
            .error .nothingToRepeat
          else if u = unitOf '\x7b' && (readBraces? us).isSome then
            .error .nothingToRepeat
          else if u = unitOf '^' then .ok (.edge .textStart, { place with rest := us })
          else if u = unitOf '$' then .ok (.edge .textEnd, { place with rest := us })
          else if u = unitOf '.' then
            .ok (.plain (.set ⟨true, lineEndRanges⟩), { place with rest := us })
          else if u = unitOf '\\' then readEscape survey place us
          else if u = unitOf '[' then do
            let (set, rest) ← readSet survey.named us
            return (.plain (.set set), { place with rest := rest })
          else if u = unitOf '(' then do
            let (opening, inside) ← readOpening place us
            let (body, after) ← readAlternatives survey fuel inside
            match after.rest with
            | _ :: rest => do
                let closed ← opening.close { after with rest := rest }
                return (opening.part body, closed)
            | [] => .error .unterminatedGroup
          else .ok (.plain (.unit u), { place with rest := us })

end

/-- Compiles the code units of a pattern. -/
def compileUnits (us : List Nat) : Except Fault Compiled := do
  let survey := surveyFrom false false ⟨0, false⟩ us
  let (body, place) ← readAlternatives survey (3 * us.length + 3) ⟨us, 0, [], []⟩
  if !place.rest.isEmpty then .error .unmatchedBracket
  else if place.references.any (fun name => (place.names.lookup name).isNone) then
    .error .unknownGroupName
  else return ⟨body, place.opened, place.names⟩

/-- Compiles the text of a pattern. -/
def compile (source : String) : Except Fault Compiled :=
  compileUnits (Text.units source)

/-- The pattern that has to match a whole text. -/
def wholeSource (source : String) : String :=
  "^(?:" ++ source ++ ")$"

end Pattern
end ApiStubs
