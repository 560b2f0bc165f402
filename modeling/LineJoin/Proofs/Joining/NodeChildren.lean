import Mathlib.Algebra.GroupWithZero.Nat
import Mathlib.Data.List.Forall2
import LineJoin.Proofs.Joining.NodeParts

/-!
# Children of nodes

The children of a node can be listed and replaced: a node has the children that are put into it, and
nothing else of it changes. `Fits` says which replacements count, as the characters of a text and the
bytes of binary data stay what they are.
-/

namespace LineJoin

namespace Tree

open Value

/-- What stands in a text or in binary data, or nowhere. -/
def fixedMember : Value → Bool
  | .str _ | .int _ | .null => true
  | _ => false

/-- Nodes that can stand in place of others in a collection. -/
def Fits (nodes others : List Value) : Prop :=
  List.Forall₂ (fun v w => fixedMember w = true → v = w) nodes others

theorem Fits.eq_of_fixed {nodes others : List Value} (h : Fits nodes others)
    (hfixed : ∀ w ∈ others, fixedMember w = true) : nodes = others := by
  induction h with
  | nil => rfl
  | cons hvw _ ih =>
    rw [hvw (hfixed _ List.mem_cons_self), ih fun w hw => hfixed w (List.mem_cons_of_mem _ hw)]

/-- The members of a collection as far as it can be iterated over. -/
def memberList (v : Value) : List Value :=
  match members v with
  | .ok nodes => nodes
  | .error _ => []

theorem keys_putKeys {keys : List Value} {entries : List (Value × Value)}
    (h : keys.length = entries.length) : (putKeys keys entries).map (·.1) = keys := by
  rw [putKeys, List.map_zipWith]
  induction keys generalizing entries with
  | nil => rfl
  | cons key keys ih =>
    cases entries with
    | nil => cases h
    | cons e entries => rw [List.zipWith_cons_cons, ih (Nat.succ.inj h)]

theorem putKeys_putKeys {keys others : List Value} {entries : List (Value × Value)}
    (h : keys.length ≤ others.length) :
    putKeys keys (putKeys others entries) = putKeys keys entries := by
  induction keys generalizing others entries with
  | nil => rfl
  | cons key keys ih =>
    cases others with
    | nil => cases h
    | cons other others =>
      cases entries with
      | nil => rfl
      | cons e entries => exact congrArg ((key, e.2) :: ·) (ih (Nat.le_of_succ_le_succ h))

theorem putKeys_keys (entries : List (Value × Value)) :
    putKeys (entries.map (·.1)) entries = entries := by
  induction entries with
  | nil => rfl
  | cons e entries ih => exact congrArg (e :: ·) ih

/-- A collection holds what is put into it. -/
theorem members_putMembers {nodes : List Value} : ∀ {v : Value}, Fits nodes (memberList v) →
    members (putMembers nodes v) = (members v).map fun _ => nodes
  | .list _, _ | .tuple _, _ | .set _, _ => rfl
  | .dict entries, h => congrArg Except.ok (keys_putKeys (h.length_eq.trans (List.length_map _)))
  | .frozen entries, h => congrArg Except.ok (keys_putKeys (h.length_eq.trans (List.length_map _)))
  | .str s, h => by
    refine congrArg Except.ok (h.eq_of_fixed ?_).symm
    intro w hw
    obtain ⟨c, -, rfl⟩ := List.mem_map.mp hw
    rfl
  | .bytes data, h => by
    refine congrArg Except.ok (h.eq_of_fixed ?_).symm
    intro w hw
    obtain ⟨b, -, rfl⟩ := List.mem_map.mp hw
    rfl
  | .shared _ v, h => members_putMembers (v := v) h
  | .null, _ | .bool _, _ | .int _, _ | .float _, _ | .object _, _ | .rule _, _ | .day _, _
  | .moment _, _ => rfl

theorem truthy_putMembers {nodes : List Value} : ∀ {v : Value},
    nodes.length = (memberList v).length → (putMembers nodes v).truthy = v.truthy
  | .list items, h | .tuple items, h | .set items, h => by
    cases items <;> cases nodes <;> first | rfl | cases h
  | .dict entries, h | .frozen entries, h => by
    cases entries <;> cases nodes <;> first | rfl | cases h
  | .shared _ v, h => truthy_putMembers (v := v) h
  | .str _, _ | .bytes _, _ | .null, _ | .bool _, _ | .int _, _ | .float _, _ | .object _, _
  | .rule _, _ | .day _, _ | .moment _, _ => rfl

theorem putMembers_putMembers {nodes others : List Value} (hle : nodes.length ≤ others.length) :
    ∀ v : Value, putMembers nodes (putMembers others v) = putMembers nodes v
  | .list _ | .tuple _ | .set _ => rfl
  | .dict _ => congrArg Value.dict (putKeys_putKeys hle)
  | .frozen _ => congrArg Value.frozen (putKeys_putKeys hle)
  | .shared id v => congrArg (Value.shared id) (putMembers_putMembers hle v)
  | .str _ | .bytes _ | .null | .bool _ | .int _ | .float _ | .object _
  | .rule _ | .day _ | .moment _ => rfl

theorem putMembers_memberList : ∀ v : Value, putMembers (memberList v) v = v
  | .list _ | .tuple _ | .set _ => rfl
  | .dict entries => congrArg Value.dict (putKeys_keys entries)
  | .frozen entries => congrArg Value.frozen (putKeys_keys entries)
  | .shared id v => congrArg (Value.shared id) (putMembers_memberList v)
  | .str _ | .bytes _ | .null | .bool _ | .int _ | .float _ | .object _
  | .rule _ | .day _ | .moment _ => rfl

theorem memberList_of_not_truthy : ∀ {v : Value}, v.truthy = false → memberList v = []
  | .list items, h | .tuple items, h | .set items, h => by
    cases items with
    | nil => rfl
    | cons v items => cases h
  | .dict entries, h | .frozen entries, h => by
    cases entries with
    | nil => rfl
    | cons e entries => cases h
  | .str s, h => by
    have hs : s = "" := by simpa [Value.truthy] using h
    rw [hs]
    rfl
  | .bytes data, h => by
    cases data with
    | nil => rfl
    | cons b data => cases h
  | .shared _ v, h => memberList_of_not_truthy (v := v) h
  | .null, _ | .bool _, _ | .int _, _ | .float _, _ | .object _, _ | .rule _, _ | .day _, _
  | .moment _, _ => rfl

theorem childList_eq (node : Value) : childList node = memberList (node.part "children") := by
  rw [childList, children]
  by_cases h : (node.part "children").truthy = true
  · rw [if_pos h]
    rfl
  · rw [if_neg h, memberList_of_not_truthy (Bool.eq_false_iff.mpr h)]

theorem childList_of_ok {node : Value} {nodes : List Value} (h : children node = .ok nodes) :
    childList node = nodes := by
  rw [childList, h]

theorem children_of_part {node other : Value} (h : node.part "children" = other.part "children") :
    children node = children other := by
  rw [children, children, h]

theorem putMembers_null (nodes : List Value) : putMembers nodes .null = .null := rfl

theorem part_putChildren (nodes : List Value) (node : Value) :
    (putChildren nodes node).part "children" = putMembers nodes (node.part "children") :=
  part_mapPart (putMembers_null nodes) "children" node

theorem part_putChildren_of_ne {name : String} (h : "children" ≠ name) (nodes : List Value)
    (node : Value) : (putChildren nodes node).part name = node.part name :=
  part_mapPart_of_ne h _ node

/-- A node has the children that are put into it. -/
theorem children_putChildren {nodes : List Value} {node : Value} (h : Fits nodes (childList node)) :
    children (putChildren nodes node) = (children node).map fun _ => nodes := by
  rw [childList_eq] at h
  rw [children, children, part_putChildren, truthy_putMembers h.length_eq]
  by_cases htruthy : (node.part "children").truthy = true
  · rw [if_pos htruthy, if_pos htruthy, members_putMembers h]
  · rw [memberList_of_not_truthy (Bool.eq_false_iff.mpr htruthy)] at h
    rw [if_neg htruthy, if_neg htruthy, List.forall₂_nil_right_iff.mp h]
    rfl

theorem childList_putChildren {nodes : List Value} {node : Value}
    (h : Fits nodes (childList node)) : childList (putChildren nodes node) = nodes := by
  rw [childList, children_putChildren h]
  rw [childList] at h
  cases hc : children node with
  | ok others => rfl
  | error e =>
    rw [hc] at h
    exact (List.forall₂_nil_right_iff.mp h).symm

theorem putChildren_putChildren {nodes others : List Value} (hle : nodes.length ≤ others.length)
    (node : Value) : putChildren nodes (putChildren others node) = putChildren nodes node := by
  rw [putChildren, putChildren, mapPart_mapPart]
  exact mapPart_congr (putMembers_putMembers hle _)

theorem putChildren_childList (node : Value) : putChildren (childList node) node = node := by
  rw [putChildren, childList_eq]
  exact (mapPart_congr (putMembers_memberList _)).trans (mapPart_id "children" node)

theorem nodeText?_putChildren (nodeType : String) (nodes : List Value) (node : Value) :
    nodeText? nodeType (putChildren nodes node) = nodeText? nodeType node := by
  rw [nodeText?, nodeText?, part_putChildren_of_ne (by decide), part_putChildren_of_ne (by decide)]

theorem children_putValue (value node : Value) : children (putValue value node) = children node :=
  children_of_part (part_putValue_of_ne (by decide) value node)

theorem putValue_putChildren (value : Value) (nodes : List Value) (node : Value) :
    putValue value (putChildren nodes node) = putChildren nodes (putValue value node) :=
  (mapPart_putValue (by decide) (putMembers nodes) value node).symm

theorem sizeOfAll_eq (nodes : List Value) : sizeOfAll nodes = (nodes.map size).sum := by
  induction nodes with
  | nil => rfl
  | cons v nodes ih => rw [sizeOfAll, ih, List.map_cons, List.sum_cons]

theorem sizeOfKeys_eq (entries : List (Value × Value)) :
    sizeOfKeys entries = ((entries.map (·.1)).map size).sum := by
  induction entries with
  | nil => rfl
  | cons e entries ih => rw [sizeOfKeys, ih, List.map_cons, List.map_cons, List.sum_cons]

theorem sizeOfMembers_eq : ∀ v : Value, sizeOfMembers v = ((memberList v).map size).sum
  | .list items | .tuple items | .set items => sizeOfAll_eq items
  | .dict entries | .frozen entries => sizeOfKeys_eq entries
  | .str s => by
    have hone : (fun c : Char => size (.str (String.singleton c))) = fun _ => 1 := rfl
    rw [sizeOfMembers, memberList, members, List.map_map]
    simp [Function.comp_def, hone, String.length_toList]
  | .bytes data => by
    have hone : (fun b : UInt8 => size (.int b.toNat)) = fun _ => 1 := rfl
    rw [sizeOfMembers, memberList, members, List.map_map]
    simp [Function.comp_def, hone]
  | .shared _ v => sizeOfMembers_eq v
  | .null | .bool _ | .int _ | .float _ | .object _ | .rule _ | .day _ | .moment _ => rfl

theorem sizeOfEntries_eq (entries : Entries) :
    sizeOfEntries entries = sizeOfMembers ((Value.dict entries).part "children") := by
  rw [part_dict]
  induction entries with
  | nil => rfl
  | cons e rest ih =>
    rw [sizeOfEntries, firstOf?_cons]
    by_cases he : e.1.sameKey (.str "children")
    · rw [if_pos he, if_pos he, Option.getD_some]
    · rw [if_neg he, if_neg he, ih]

theorem sizeOfFields_eq (fields : List (String × Value)) :
    sizeOfFields fields = sizeOfMembers ((Value.object fields).part "children") := by
  rw [part_object]
  induction fields with
  | nil => rfl
  | cons f rest ih =>
    rw [sizeOfFields, firstOf?_cons, ih]
    by_cases hf : f.1 = "children"
    · rw [if_pos hf, if_pos (beq_iff_eq.mpr hf), Option.getD_some]
    · rw [if_neg hf, if_neg (fun h => hf (beq_iff_eq.mp h))]

theorem size_eq_sizeOfMembers : ∀ node : Value,
    size node = 1 + sizeOfMembers (node.part "children")
  | .dict entries => congrArg (1 + ·) (sizeOfEntries_eq entries)
  | .frozen entries => congrArg (1 + ·) (sizeOfEntries_eq entries)
  | .object fields => congrArg (1 + ·) (sizeOfFields_eq fields)
  | .shared _ v => size_eq_sizeOfMembers v
  | .null | .bool _ | .int _ | .float _ | .str _ | .bytes _ | .list _ | .tuple _ | .set _
  | .rule _ | .day _ | .moment _ => rfl

theorem size_eq (node : Value) : size node = 1 + ((childList node).map size).sum := by
  rw [size_eq_sizeOfMembers, sizeOfMembers_eq, childList_eq]

theorem size_lt {node child : Value} (h : child ∈ childList node) : size child < size node := by
  obtain ⟨before, after, hsplit⟩ := List.append_of_mem h
  rw [size_eq node, hsplit, List.map_append, List.sum_append, List.map_cons, List.sum_cons]
  omega

/-- What holds of a node if it holds of its children holds of all nodes. -/
theorem tree_induction {P : Value → Prop} (node : ∀ v, (∀ child ∈ childList v, P child) → P v)
    (v : Value) : P v := by
  induction hn : size v using Nat.strongRecOn generalizing v with
  | ind n ih => exact node v fun child hchild => ih _ (hn ▸ size_lt hchild) child rfl

end Tree

end LineJoin
