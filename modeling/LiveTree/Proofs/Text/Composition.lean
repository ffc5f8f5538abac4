import LiveTree.Text.Composition

namespace LiveTree.Text

theorem lt_of_mem_pairTable :
    ∀ ps ∈ pairTable, ∀ p ∈ ps, 0x20 < p.1 ∧ 0x20 < p.2.1 ∧ 0x20 < p.2.2 := by
  decide +kernel

variable {c d : Char} {cs : List Char}

theorem splitChar?_of_le (h : c.toNat ≤ 0x20) : splitChar? c = none := by
  have hsyllable : ¬ (firstSyllable ≤ c.toNat ∧ c.toNat < firstSyllable + syllableCount) := by
    rw [firstSyllable]
    omega
  rw [splitChar?]
  simp only [if_neg hsyllable, List.findSome?_eq_none_iff, Option.map_eq_none_iff,
    List.find?_eq_none, decide_eq_true_eq]
  intro ps hps p hp hc
  have hlow := (lt_of_mem_pairTable ps hps p hp).1
  omega

theorem joinChars?_of_le (h : c.toNat ≤ 0x20 ∨ d.toNat ≤ 0x20) : joinChars? c d = none := by
  have hsyllable : joinSyllable? c.toNat d.toNat = none := by
    rw [joinSyllable?, if_neg, if_neg]
    · simp only [firstSyllable, noTail]
      omega
    · simp only [firstLead, firstVowel]
      omega
  rw [joinChars?]
  simp only [hsyllable, List.findSome?_eq_none_iff, Option.map_eq_none_iff, List.find?_eq_none,
    Bool.and_eq_true, decide_eq_true_eq]
  rintro ps hps p hp ⟨hc, hd⟩
  have hlow := (lt_of_mem_pairTable ps hps p hp).2
  omega

theorem mem_placeMark {text : List Char} : d ∈ placeMark c text ↔ d = c ∨ d ∈ text := by
  induction text with
  | nil => rw [placeMark, List.mem_singleton, List.mem_nil_iff, or_false]
  | cons e text ih =>
      rw [placeMark]
      split
      · rw [List.mem_cons, ih, List.mem_cons, or_left_comm]
      · rw [List.mem_cons]

theorem mem_arranged : c ∈ arranged cs ↔ c ∈ cs := by
  have hplaced (text : List Char) :
      c ∈ cs.foldl (fun text d => placeMark d text) text ↔ c ∈ text ∨ c ∈ cs := by
    induction cs generalizing text with
    | nil => rw [List.foldl_nil, List.mem_nil_iff, or_false]
    | cons d cs ih =>
        rw [List.foldl_cons, ih, mem_placeMark, List.mem_cons, or_assoc, or_left_comm]
  rw [arranged, List.mem_reverse, hplaced, List.mem_nil_iff, false_or]

/-- A letter takes in no blank and no control character, and none of these takes in a mark. -/
theorem Composing.mem_push {s : Composing} (h : c.toNat ≤ 0x20) (hc : c ∈ s.reversed ∨ c = d) :
    c ∈ (s.push d).reversed := by
  rw [push]
  split
  · next joined hjoined =>
      -- what is joined is neither `c` nor with it
      obtain ⟨a, ha, hjoin⟩ : ∃ a, s.letter = some a ∧ joinChars? a d = some joined := by
        split at hjoined
        · exact Option.bind_eq_some_iff.1 hjoined
        · exact nomatch hjoined
      have hapart (hle : a.toNat ≤ 0x20 ∨ d.toNat ≤ 0x20) : False := by
        rw [joinChars?_of_le hle] at hjoin
        exact nomatch hjoin
      rcases hc with hc | rfl
      · simp only [reversed, ha, Option.toList_some, List.mem_append, List.mem_singleton] at hc ⊢
        rcases hc with hc | rfl | hc
        · exact .inl hc
        · exact absurd (.inl h) hapart
        · exact .inr (.inr hc)
      · exact absurd (.inr h) hapart
  · have hbehind : c ∈ d :: s.reversed := List.mem_cons.2 hc.symm
    split <;> exact hbehind

theorem mem_composed_of_le (h : c.toNat ≤ 0x20) (hc : c ∈ cs) : c ∈ composed cs := by
  have hpushed (parts : List Char) (s : Composing) (hmem : c ∈ s.reversed ∨ c ∈ parts) :
      c ∈ (parts.foldl Composing.push s).reversed := by
    induction parts generalizing s with
    | nil => simpa using hmem
    | cons d parts ih =>
        refine ih (s.push d) ?_
        rw [List.mem_cons, ← or_assoc] at hmem
        exact hmem.imp_left (Composing.mem_push h)
  have hparts : partsOf mostSplits c = [c] := by
    rw [mostSplits, partsOf, splitChar?_of_le h]
  rw [composed, List.mem_reverse]
  refine hpushed _ _ (.inr (mem_arranged.2 (List.mem_flatMap.2 ⟨c, hc, ?_⟩)))
  rw [hparts, List.mem_singleton]

end LiveTree.Text
