import ComplexityLint.Text.Composed
import ComplexityLint.Text.Pieces
import ComplexityLint.Uri.Domain.Direction
import ComplexityLint.Uri.Domain.Joining
import ComplexityLint.Uri.Domain.Mapping
import ComplexityLint.Uri.Domain.Punycode

/-!
Names of domains, which can hold characters of all scripts. A name is mapped and composed, and cut
into labels at its points; a label can stand for another one in ASCII. What is left has to be a name
that reads one way and is written one way.
-/

namespace ComplexityLint.Uri.Domain

open Text

/-- What no name holds. -/
def isForbidden (c : Char) : Bool :=
  c.toNat ≤ 32 || c.toNat = 127
    || ['#', '%', '/', ':', '<', '>', '?', '@', '[', '\\', ']', '^', '|'].contains c

/-- Whether a character is one of ASCII. -/
def isAscii (c : Char) : Bool := c.toNat < 0x80

/-- How a label starts that stands for another one. -/
def standIn : List Char := "xn--".toList

/-- The length of the longest label that holds other characters than those of ASCII. -/
def labelLimit : Nat := 1000

/-- The length of the longest text that stands for a label. -/
def standInLimit : Nat := 2000

/-- Mapped and composed text. -/
def normal? (s : List Char) : Option (List Char) := (map? s).map composed

/-- The label that a label stands for, itself as a rule. -/
def meaning? (label : List Char) : Option (List Char) :=
  if standIn.isPrefixOf label then do
    let s := label.drop standIn.length
    if s = [] ∨ s.getLast? = some '-' ∨ standInLimit < s.length ∨ !s.all isAscii then none
    else
      let full ← Punycode.decode? s
      if normal? full = some full ∧ !standIn.isPrefixOf full then some full else none
  else some label

/-- Whether a label can stand in a name. -/
def isLabel (label : List Char) : Bool :=
  label.all isAscii
    || (label.length ≤ labelLimit && !label.head?.any isMark && joins label)

/-- Whether labels read one way side by side. -/
def readOneWay (labels : List (List Char)) : Bool :=
  !labels.any (·.any fun c => (Direction.ofChar c).isBackward)
    || labels.all fun l => l = [] || readsOneWay l

/-- The labels of the name that a text writes, if it writes one. -/
def labels? (s : List Char) : Option (List (List Char)) := do
  let name ← normal? s
  if name = [] ∨ name.any isForbidden then none
  let labels ← (pieces '.' name).mapM meaning?
  if labels.all isLabel && readOneWay labels then some labels else none

end ComplexityLint.Uri.Domain
