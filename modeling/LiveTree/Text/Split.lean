namespace LiveTree.Text

def splitOn (sep : Char) : List Char → List (List Char)
  | [] => [[]]
  | c :: cs =>
      match splitOn sep cs with
      | [] => [[c]]
      | part :: parts => if c = sep then [] :: part :: parts else (c :: part) :: parts

theorem splitOn_ne_nil (sep : Char) (cs : List Char) : splitOn sep cs ≠ [] := by
  cases cs with
  | nil => simp [splitOn]
  | cons c cs =>
      simp only [splitOn]
      split
      · simp
      · split <;> simp

theorem splitOn_of_not_mem {sep : Char} {cs : List Char} (h : sep ∉ cs) : splitOn sep cs = [cs] := by
  induction cs with
  | nil => rfl
  | cons c cs ih =>
      obtain ⟨hc, hcs⟩ := not_or.1 (mt List.mem_cons.2 h)
      simp only [splitOn, ih hcs, if_neg (Ne.symm hc)]

theorem intercalate_splitOn (sep : Char) (cs : List Char) :
    List.intercalate [sep] (splitOn sep cs) = cs := by
  induction cs with
  | nil => rfl
  | cons c cs ih =>
      simp only [splitOn]
      split
      · next hn => exact absurd hn (splitOn_ne_nil sep cs)
      · next part parts hp =>
          rw [hp] at ih
          split
          · next hs => subst hs; simpa [List.intercalate] using ih
          · cases parts <;> simpa [List.intercalate] using ih

theorem splitOn_append_sep (sep : Char) (cs ds : List Char) :
    splitOn sep (cs ++ sep :: ds) = splitOn sep cs ++ splitOn sep ds := by
  induction cs with
  | nil =>
      simp only [List.nil_append, splitOn]
      split
      · next hn => exact absurd hn (splitOn_ne_nil sep ds)
      · simp [*]
  | cons c cs ih =>
      simp only [List.cons_append, splitOn, ih]
      cases hp : splitOn sep cs with
      | nil => exact absurd hp (splitOn_ne_nil sep cs)
      | cons part parts =>
          simp only [List.cons_append]
          split <;> rfl

theorem splitOn_intercalate {sep : Char} {parts : List (List Char)} (hparts : parts ≠ [])
    (h : ∀ part ∈ parts, sep ∉ part) : splitOn sep (List.intercalate [sep] parts) = parts := by
  induction parts with
  | nil => exact absurd rfl hparts
  | cons part parts ih =>
      obtain ⟨hpart, hrest⟩ := List.forall_mem_cons.1 h
      cases parts with
      | nil => simpa [List.intercalate] using splitOn_of_not_mem hpart
      | cons next parts =>
          have hjoin : List.intercalate [sep] (part :: next :: parts) =
              part ++ sep :: List.intercalate [sep] (next :: parts) := by
            simp [List.intercalate]
          rw [hjoin, splitOn_append_sep, splitOn_of_not_mem hpart,
            ih (List.cons_ne_nil _ _) hrest]
          rfl

theorem not_mem_of_mem_splitOn {sep : Char} {cs part : List Char} (h : part ∈ splitOn sep cs) :
    sep ∉ part := by
  induction cs generalizing part with
  | nil => simp_all [splitOn]
  | cons c cs ih =>
      simp only [splitOn] at h
      split at h
      · next hn => exact absurd hn (splitOn_ne_nil sep cs)
      · next p parts hp =>
          rw [hp] at ih
          split at h
          · rcases List.mem_cons.1 h with rfl | h
            · simp
            · exact ih h
          · next hs =>
              rcases List.mem_cons.1 h with rfl | h
              · simpa [Ne.symm hs] using ih (List.mem_cons_self ..)
              · exact ih (List.mem_cons_of_mem _ h)

end LiveTree.Text
