import EventQuery.Url.Domain.MappingTable
import EventQuery.Url.Domain.Table

/-!
The characters of a domain name as they are compared: without case, without
variants, and without the characters that do not count.
-/

namespace EventQuery

/-- The characters that a name may be written with. -/
def knownRows : List CharRow := readTable knownCharacters

/-- The characters that a name is read without. -/
def ignoredRows : List CharRow := readTable ignoredCharacters

/-- The characters that stand for others. -/
def mappedRows : List CharRow := readTable mappedCharacters

/-- What a character stands for, if it stands for others. -/
def mapped? (c : Char) : Option (List Char) :=
  let row := mappedRows.find? fun r =>
    r.first ≤ c.toNat && c.toNat ≤ r.last && (c.toNat - r.first) % r.payload.headD 1 == 0
  match row with
  | some ⟨first, _, [_, target]⟩ => some [Char.ofNat (target + (c.toNat - first))]
  | some ⟨_, _, _ :: targets⟩ => some (targets.map Char.ofNat)
  | _ => none

/-- The characters that a character of a name is compared as; `none` if no name
has it. -/
def mapChar? (c : Char) : Option (List Char) :=
  if c.toNat < 0x80 then some [c.toLower]
  else match mapped? c with
    | some targets => some targets
    | none =>
      if hasRow ignoredRows c then some []
      else if hasRow knownRows c then some [c]
      else none

/-- Whether a character is compared as itself. -/
def isPlain (c : Char) : Bool := mapChar? c == some [c]

end EventQuery
