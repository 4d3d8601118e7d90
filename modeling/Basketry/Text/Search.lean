namespace Basketry.Text

/-- Whether `part` stands somewhere in `whole` without gaps. -/
def occursIn (part : List Char) : List Char → Bool
  | [] => part.isEmpty
  | c :: whole => part.isPrefixOf (c :: whole) || occursIn part whole

/-- What stands before and behind the first occurrence of a character. -/
def splitAtFirst (mark : Char) (cs : List Char) : Option (List Char × List Char) :=
  match cs.span (· ≠ mark) with
  | (_, []) => none
  | (before, _ :: behind) => some (before, behind)

end Basketry.Text
