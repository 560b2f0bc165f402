import LineJoin.Value.Basic

/-!
# Merging settings

`merge` lays one mapping over another. Where both have a mapping the two are merged in turn; any
other value, a list included, replaces the value below it. Keys keep their places, and new keys come
after the old ones.
-/

namespace LineJoin.Settings

mutual
/-- The value of an entry that is laid over an old one, if there is one. -/
def overlay (old : Option Value) : Value → Value
  | .dict entries =>
    match old.bind Value.dict? with
    | some base => .dict (merge base entries)
    | none => .dict entries
  | .shared id v =>
    match old.bind Value.dict?, v.dict? with
    | some _, some _ => overlay old v
    | _, _ => .shared id v
  | v => v

def merge (base : Entries) : List (Value × Value) → Entries
  | [] => base
  | (key, v) :: rest => merge (Entries.put key (overlay (Entries.get? base key) v) base) rest
end

end LineJoin.Settings
