/-!
# Cutting lists

`cutAt sep` cuts a list at every occurrence of a separator; joining the pieces with the separator
gives the list back.
-/

namespace LineJoin

/-- The pieces between the occurrences of `sep`. There is always at least one. -/
def cutAt {α : Type} [BEq α] (sep : α) : List α → List (List α)
  | [] => [[]]
  | x :: rest =>
    if x == sep then [] :: cutAt sep rest
    else match cutAt sep rest with
      | [] => [[x]]
      | first :: more => (x :: first) :: more

/-- What stands before and after the first occurrence of `sep`, if there is one. -/
def cutFirst {α : Type} [BEq α] (sep : α) : List α → Option (List α × List α)
  | [] => none
  | x :: rest =>
    if x == sep then some ([], rest)
    else (cutFirst sep rest).map fun (before, after) => (x :: before, after)

end LineJoin
