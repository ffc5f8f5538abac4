import LiveTree.Text.Ranges

namespace LiveTree.Text

/-- The code points with the property `White_Space`. Zero-width characters such as U+200B and
U+FEFF are not among them. -/
def blankRanges : Ranges :=
  [(0x09, 0x0D), (0x20, 0x20), (0x85, 0x85), (0xA0, 0xA0), (0x1680, 0x1680), (0x2000, 0x200A),
   (0x2028, 0x2029), (0x202F, 0x202F), (0x205F, 0x205F), (0x3000, 0x3000)]

def isBlank (c : Char) : Bool :=
  blankRanges.holds c

def dropEndWhile (p : Char → Bool) (cs : List Char) : List Char :=
  (cs.reverse.dropWhile p).reverse

def trimBy (p : Char → Bool) (cs : List Char) : List Char :=
  dropEndWhile p (cs.dropWhile p)

def trim (cs : List Char) : List Char :=
  trimBy isBlank cs

theorem exists_append_dropEndWhile (p : Char → Bool) (cs : List Char) :
    ∃ ds, cs = dropEndWhile p cs ++ ds ∧ ∀ c ∈ ds, p c := by
  refine ⟨(cs.reverse.takeWhile p).reverse, ?_, ?_⟩
  · rw [dropEndWhile, ← List.reverse_append, List.takeWhile_append_dropWhile, List.reverse_reverse]
  · intro c hc
    exact List.all_eq_true.1 List.all_takeWhile c (List.mem_reverse.1 hc)

theorem dropEndWhile_append_of_all {p : Char → Bool} {cs ds : List Char} (h : ∀ c ∈ ds, p c) :
    dropEndWhile p (cs ++ ds) = dropEndWhile p cs := by
  have hd : (cs ++ ds).reverse.dropWhile p = cs.reverse.dropWhile p := by
    rw [List.reverse_append, List.dropWhile_append_of_pos (by simpa using h)]
  rw [dropEndWhile, dropEndWhile, hd]

theorem dropEndWhile_eq_self {p : Char → Bool} {cs : List Char}
    (h : ∀ c, cs.getLast? = some c → ¬ p c) :
    dropEndWhile p cs = cs := by
  rw [dropEndWhile]
  cases hr : cs.reverse with
  | nil => rw [List.reverse_eq_nil_iff.1 hr]; rfl
  | cons c ds =>
      have hl : cs.getLast? = some c := by rw [List.getLast?_eq_head?_reverse, hr]; rfl
      rw [List.dropWhile_cons_of_neg (h c hl), ← hr, List.reverse_reverse]

end LiveTree.Text
