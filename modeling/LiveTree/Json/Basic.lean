import LiveTree.Decimal.Binary64
import LiveTree.Keyed

namespace LiveTree

inductive Json.Number where
  | whole (n : Int)
  | double (x : Decimal.Binary64)
  deriving DecidableEq, Repr

inductive Json where
  | null
  | bool (b : Bool)
  | number (n : Json.Number)
  | text (s : String)
  | list (items : List Json)
  | object (members : List (String × Json))
  deriving Repr

namespace Json

mutual
def same : Json → Json → Bool
  | .null, .null => true
  | .bool a, .bool b => a = b
  | .number a, .number b => a = b
  | .text a, .text b => a = b
  | .list xs, .list ys => sameItems xs ys
  | .object xs, .object ys => sameMembers xs ys
  | _, _ => false

def sameItems : List Json → List Json → Bool
  | [], [] => true
  | x :: xs, y :: ys => same x y && sameItems xs ys
  | _, _ => false

def sameMembers : List (String × Json) → List (String × Json) → Bool
  | [], [] => true
  | (j, x) :: xs, (k, y) :: ys => decide (j = k) && same x y && sameMembers xs ys
  | _, _ => false
end

mutual
theorem same_iff (a b : Json) : same a b = true ↔ a = b := by
  cases a <;> cases b <;> simp [same]
  · exact sameItems_iff _ _
  · exact sameMembers_iff _ _

theorem sameItems_iff (xs ys : List Json) : sameItems xs ys = true ↔ xs = ys := by
  cases xs with
  | nil => cases ys <;> simp [sameItems]
  | cons x xs =>
      cases ys with
      | nil => simp [sameItems]
      | cons y ys => simp [sameItems, same_iff x y, sameItems_iff xs ys]

theorem sameMembers_iff (xs ys : List (String × Json)) : sameMembers xs ys = true ↔ xs = ys := by
  cases xs with
  | nil => cases ys <;> simp [sameMembers]
  | cons x xs =>
      obtain ⟨j, x⟩ := x
      cases ys with
      | nil => simp [sameMembers]
      | cons y ys => obtain ⟨k, y⟩ := y; simp [sameMembers, same_iff x y, sameMembers_iff xs ys]
end

instance : DecidableEq Json := fun a b => decidable_of_iff _ (same_iff a b)

instance : Inhabited Json := ⟨.null⟩

end Json

end LiveTree
