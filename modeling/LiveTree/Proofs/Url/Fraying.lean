import LiveTree.Proofs.Url.Extension

namespace LiveTree.Url

def behindSlashes (cs : List Char) : List Char :=
  (((kept cs).dropWhile (· ≠ ':')).drop 1).dropWhile (isSlashOf true)

/-- An address goes no further than its machine, and ends in a blank or a control character. -/
structure IsFrayed (cs : List Char) : Prop where
  bare : ∀ c ∈ behindSlashes cs, endsAuthority true c = false
  low : ¬ EndsPlainly (kept cs)

theorem endsPlainly_iff (cs : List Char) :
    EndsPlainly cs ↔ cs.getLast?.all (fun c => 0x20 < c.toNat) = true := by
  simp [EndsPlainly, Option.all_eq_true]

theorem isFrayed_iff_all (cs : List Char) : IsFrayed cs ↔
    (behindSlashes cs).all (fun c => !endsAuthority true c) = true ∧
      ¬ (kept cs).getLast?.all (fun c => 0x20 < c.toNat) = true := by
  rw [← endsPlainly_iff, List.all_eq_true]
  exact ⟨fun h => ⟨fun c hc => by rw [h.bare c hc]; rfl, h.low⟩,
    fun h => ⟨fun c hc => by simpa using h.1 c hc, h.2⟩⟩

-- There are too many characters for what is said of all of them to be decided as it stands.
instance (cs : List Char) : Decidable (IsFrayed cs) :=
  decidable_of_iff' _ (isFrayed_iff_all cs)

section Reading

variable {scheme cs text front rest low : List Char} {a : Authority}

theorem isSlashOf_of_not_ends {c : Char} (h : endsAuthority true c = false) :
    isSlashOf true c = false := by
  simp only [endsAuthority, Bool.or_eq_false_iff] at h
  exact h.1.1

theorem behindSlashes_front (hs : IsWeb scheme) (hf : IsFront scheme text front)
    (h : IsReadAs scheme cs a front rest low) :
    behindSlashes (webText scheme cs) = text ++ (rest ++ low) := by
  obtain ⟨slashes, hslashes, hfront⟩ := hf.slashed
  have hscheme (ds : List Char) :
      ((webText scheme [] ++ ds).dropWhile (· ≠ ':')).drop 1 = '/' :: '/' :: ds := by
    rcases hs with rfl | rfl <;> rfl
  have htext : (text ++ (rest ++ low)).dropWhile (isSlashOf true) = text ++ (rest ++ low) := by
    obtain ⟨c, text, rfl⟩ := List.exists_cons_of_ne_nil hf.ne
    have hc := isSlashOf_of_not_ends (hf.ends c (List.mem_cons_self ..))
    rw [List.cons_append, List.dropWhile_cons_of_neg (by simp [hc])]
  have hall : ∀ c ∈ '/' :: '/' :: slashes, isSlashOf true c = true := by
    rw [List.forall_mem_cons, List.forall_mem_cons]
    exact ⟨rfl, rfl, hslashes⟩
  calc behindSlashes (webText scheme cs)
      = (('/' :: '/' :: slashes) ++ (text ++ (rest ++ low))).dropWhile (isSlashOf true) := by
        rw [behindSlashes, h.kept_eq, ← hfront, List.append_assoc, List.append_assoc, hscheme]
        rfl
    _ = text ++ (rest ++ low) := by
        rw [List.dropWhile_append_of_pos hall, htext]

theorem isFrayed_iff (hs : IsWeb scheme) (hf : IsFront scheme text front)
    (h : IsReadAs scheme cs a front rest low) :
    IsFrayed (webText scheme cs) ↔ ¬ (rest ≠ [] ∨ low = []) := by
  rw [not_or, Decidable.not_not]
  constructor
  · rintro ⟨hbare, hlow⟩
    rw [behindSlashes_front hs hf h] at hbare
    have hrest : rest = [] := by
      cases hr : rest with
      | nil => rfl
      | cons c rest =>
          have hc : endsAuthority true c = true := by
            have hhead := h.head
            rwa [hr] at hhead
          have hmem := hbare c (by simp [hr])
          exact nomatch hc.symm.trans hmem
    refine ⟨hrest, ?_⟩
    rintro rfl
    obtain ⟨slashes, -, hfront⟩ := hf.slashed
    apply hlow
    rw [h.kept_eq, hrest, List.append_nil, List.append_nil, ← hfront, endsPlainly_append _ hf.ne]
    exact hf.plain
  · rintro ⟨rfl, hne⟩
    have hends : ∀ c ∈ low, endsAuthority true c = false :=
      fun c hc => endsAuthority_of_le (h.low_le c hc).1
    constructor
    · rw [behindSlashes_front hs hf h]
      exact List.forall_mem_append.2 ⟨hf.ends, hends⟩
    · rw [h.kept_eq, List.nil_append, endsPlainly_append _ hne]
      intro hplain
      have hlast := hplain _ (List.getLast?_eq_some_getLast hne)
      have := (h.low_le _ (List.getLast_mem hne)).1
      omega

end Reading

end LiveTree.Url
