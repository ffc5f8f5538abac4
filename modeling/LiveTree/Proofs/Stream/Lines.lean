import LiveTree.Stream.Transcript

namespace LiveTree.Stream

theorem completeLines_line {inside : List UInt8} (h : lineFeed ∉ inside) (rest : List UInt8) :
    completeLines (inside ++ lineFeed :: rest) = (inside ++ [lineFeed]) :: completeLines rest := by
  induction inside with
  | nil => simp [completeLines]
  | cons b inside ih =>
      obtain ⟨hb, hi⟩ : b ≠ lineFeed ∧ lineFeed ∉ inside := by
        simpa [eq_comm] using h
      simp [completeLines, hb, ih hi]

theorem unfinishedLine_eq_self {bytes : List UInt8} (h : lineFeed ∉ bytes) :
    unfinishedLine bytes = bytes := by
  cases bytes with
  | nil => rfl
  | cons b rest => rw [unfinishedLine, if_neg h]

theorem unfinishedLine_line (inside rest : List UInt8) :
    unfinishedLine (inside ++ lineFeed :: rest) = unfinishedLine rest := by
  induction inside with
  | nil => simp [unfinishedLine]
  | cons b inside ih =>
      rw [List.cons_append, unfinishedLine, if_pos (by simp), ih]

theorem lineFeed_not_mem_unfinishedLine (bytes : List UInt8) :
    lineFeed ∉ unfinishedLine bytes := by
  induction bytes with
  | nil => simp [unfinishedLine]
  | cons b rest ih =>
      rw [unfinishedLine]
      split
      · exact ih
      · next h => exact h

theorem exists_line_of_mem {bytes : List UInt8} (h : lineFeed ∈ bytes) :
    ∃ inside rest, bytes = inside ++ lineFeed :: rest ∧ lineFeed ∉ inside := by
  induction bytes with
  | nil => simp at h
  | cons b bytes ih =>
      by_cases hb : b = lineFeed
      · exact ⟨[], bytes, by rw [hb, List.nil_append], by simp⟩
      · obtain ⟨inside, rest, rfl, hi⟩ := ih (List.mem_of_ne_of_mem (Ne.symm hb) h)
        exact ⟨b :: inside, rest, rfl, by simp [hi, Ne.symm hb]⟩

theorem lines_induction {P : List UInt8 → Prop} (tail : ∀ bytes, lineFeed ∉ bytes → P bytes)
    (line : ∀ inside rest, lineFeed ∉ inside → P rest → P (inside ++ lineFeed :: rest))
    (bytes : List UInt8) : P bytes := by
  induction hn : bytes.length using Nat.strongRecOn generalizing bytes with
  | ind n ih =>
      by_cases hm : lineFeed ∈ bytes
      · obtain ⟨inside, rest, rfl, hi⟩ := exists_line_of_mem hm
        have hl : rest.length < n := by
          rw [← hn, List.length_append, List.length_cons]
          omega
        exact line inside rest hi (ih rest.length hl rest rfl)
      · exact tail bytes hm

theorem completeLines_append (before after : List UInt8) :
    completeLines (before ++ after) =
      completeLines before ++ completeLines (unfinishedLine before ++ after) := by
  induction before using lines_induction with
  | tail bytes h =>
      rw [unfinishedLine_eq_self h, (completeLines_eq_nil_iff bytes).2 h, List.nil_append]
  | line inside rest h ih =>
      rw [List.append_assoc, List.cons_append, completeLines_line h, completeLines_line h,
        unfinishedLine_line, ih, List.cons_append]

theorem unfinishedLine_append (before after : List UInt8) :
    unfinishedLine (before ++ after) = unfinishedLine (unfinishedLine before ++ after) := by
  induction before using lines_induction with
  | tail bytes h => rw [unfinishedLine_eq_self h]
  | line inside rest h ih =>
      rw [List.append_assoc, List.cons_append, unfinishedLine_line, unfinishedLine_line, ih]

end LiveTree.Stream
