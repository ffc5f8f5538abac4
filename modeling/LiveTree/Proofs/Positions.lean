import Mathlib.Data.List.Forall2

namespace LiveTree

variable {α β : Type} {as : List α} {bs : List β} {i : Nat} {a b : α}

theorem getElem?_append_of_eq_some (h : as[i]? = some a) (more : List α) :
    (as ++ more)[i]? = some a := by
  rw [List.getElem?_append_left (List.getElem?_eq_some_iff.1 h).1, h]

theorem getElem?_concat_cases (h : (as ++ [b])[i]? = some a) :
    as[i]? = some a ∨ i = as.length ∧ a = b := by
  by_cases hi : i < as.length
  · exact .inl (List.getElem?_append_left hi ▸ h)
  · rw [List.getElem?_append_right (Nat.le_of_not_lt hi), List.getElem?_singleton] at h
    split at h
    · exact .inr ⟨by omega, (Option.some.inj h).symm⟩
    · exact nomatch h

variable {R : α → β → Prop}

theorem exists_of_forall₂ (h : List.Forall₂ R as bs) (ha : as[i]? = some a) :
    ∃ b, bs[i]? = some b ∧ R a b := by
  induction h generalizing i with
  | nil => exact nomatch ha
  | cons hhead _ ih =>
      cases i with
      | zero => exact ⟨_, rfl, Option.some.inj ha ▸ hhead⟩
      | succ i => exact ih ha

theorem forall₂_set (h : List.Forall₂ R as bs) {a' : α} {b b' : β} (ha : as[i]? = some a)
    (hb : bs[i]? = some b) (hr : R a b → R a' b') : List.Forall₂ R (as.set i a') (bs.set i b') := by
  induction h generalizing i with
  | nil => exact nomatch ha
  | cons hhead htail ih =>
      cases i with
      | zero =>
          obtain rfl := Option.some.inj ha
          obtain rfl := Option.some.inj hb
          exact .cons (hr hhead) htail
      | succ i => exact .cons hhead (ih ha hb)

end LiveTree
