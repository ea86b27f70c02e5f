import ComplexityLint.Text.Pieces
import ComplexityLint.Text.Runs
import ComplexityLint.Uri.Domain.Mapping.Table

/-!
The mapping of names of domains: small letters for capital ones, usual characters for unusual forms
of them, and nothing for invisible ones. Some characters are refused.
-/

namespace ComplexityLint.Uri.Domain

open Text

/-- What becomes of the characters of a run. -/
inductive Change
  | keep
  | refuse
  | drop
  /-- Each with an even distance from the start becomes the one behind it, the others stay. -/
  | alternate
  /-- The first becomes a character, and the others become those that follow it. -/
  | shift (target : Nat)
  | replace (characters : List Nat)
deriving DecidableEq

/-- A run of characters that share a change. -/
structure MappingRun where
  length : Nat
  change : Change

/-- Reads a run. -/
def MappingRun.ofWord (w : List Char) : MappingRun :=
  let numbers := (pieces '.' (w.drop 1)).map base36
  let first := numbers.head?.getD 0
  match w.head? with
  | some 'k' => ⟨first, .keep⟩
  | some 'd' => ⟨first, .drop⟩
  | some 'a' => ⟨first, .alternate⟩
  | some 's' => ⟨first, .shift (numbers[1]?.getD 0)⟩
  | some 't' => ⟨1, .replace numbers⟩
  | _ => ⟨first, .refuse⟩

/-- The mapping, run by run, from U+0080 on. -/
def mappingRuns : List MappingRun := (words mappingTable).map MappingRun.ofWord

/-- What a change makes of a code point at a distance from the start of its run. -/
def Change.outcome? (k : Change) (distance n : Nat) : Option (List Nat) :=
  match k with
  | keep => some [n]
  | refuse => none
  | drop => some []
  | alternate => some [if distance % 2 = 0 then n + 1 else n]
  | shift target => some [target + distance]
  | replace characters => some characters

/-- What becomes of the code point `n` that is `distance` behind the start of some runs. -/
def changed? (n : Nat) : Nat → List MappingRun → Option (List Nat)
  | _, [] => none
  | distance, r :: rs =>
    if distance < r.length then r.change.outcome? distance n
    else changed? n (distance - r.length) rs

/-- What becomes of a character. ASCII is kept, in small letters. -/
def mapChar? (c : Char) : Option (List Char) :=
  if c.toNat < 0x80 then some [c.toLower]
  else (changed? c.toNat (c.toNat - 0x80) mappingRuns).map (·.map Char.ofNat)

/-- What becomes of a text, if none of its characters is refused. -/
def map? (s : List Char) : Option (List Char) := (s.mapM mapChar?).map List.flatten

end ComplexityLint.Uri.Domain
