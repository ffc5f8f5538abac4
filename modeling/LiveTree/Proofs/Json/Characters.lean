import LiveTree.Proofs.Json.Spelling

namespace LiveTree.Json

def isPlain (gap : Char → Bool) (c : Char) : Bool :=
  gap c || decide (0x20 ≤ c.toNat)

section Parts

variable {p : Char → Bool} {before last : List Char} {close : Char} {ts : List (List Char)}

theorem all_partsText (hbefore : before.all p = true) (hlast : last.all p = true)
    (hcomma : p ',' = true) (hclose : p close = true) (h : ∀ t ∈ ts, t.all p = true) (first : Bool) :
    (partsText before last close first ts).all p = true := by
  induction ts generalizing first with
  | nil => simp [partsText, hlast, hclose]
  | cons t ts ih =>
      obtain ⟨ht, hts⟩ := List.forall_mem_cons.1 h
      have hmark : (partMark before first).all p = true := by
        cases first <;> simp [partMark, hbefore, hcomma]
      simp [partsText, hmark, ht, ih hts]

theorem all_memberText {key : String} {text : List Char} (hkey : (renderText key).all p = true)
    (hcolon : p ':' = true) (htext : text.all p = true) : (memberText key text).all p = true := by
  simp [memberText, hkey, hcolon, htext]

end Parts

section Values

variable {gap : Char → Bool}

theorem isPlain_of_gap {c : Char} (h : gap c = true) : isPlain gap c = true := by
  rw [isPlain, h, Bool.true_or]

theorem isPlain_of_le {c : Char} (h : 0x20 ≤ c.toNat) : isPlain gap c = true := by
  rw [isPlain, decide_eq_true h, Bool.or_true]

theorem all_isPlain_gap {cs : List Char} (h : ∀ c ∈ cs, gap c = true) :
    cs.all (isPlain gap) = true :=
  List.all_eq_true.2 fun c hc => isPlain_of_gap (h c hc)

theorem le_digitChar : ∀ d < 16, 0x20 ≤ (Nat.digitChar d).toNat := by
  decide

theorem le_of_mem_escape {c d : Char} (h : d ∈ escape c) : 0x20 ≤ d.toNat := by
  have htens : c.toNat < 0x20 → 0x20 ≤ (Nat.digitChar (c.toNat / 16)).toNat :=
    fun hc => le_digitChar _ (by omega)
  have hones : 0x20 ≤ (Nat.digitChar (c.toNat % 16)).toNat := le_digitChar _ (by omega)
  rw [escape] at h
  iterate 7
    split at h
    · simp only [List.mem_cons, List.not_mem_nil, or_false] at h
      rcases h with rfl | rfl <;> decide
  split at h
  · next hc =>
      simp only [List.mem_cons, List.not_mem_nil, or_false] at h
      rcases h with rfl | rfl | rfl | rfl | rfl | rfl
      iterate 4 decide
      · exact htens hc
      · exact hones
  · next hc =>
      rw [List.mem_singleton.1 h]
      omega

theorem all_isPlain_renderText (s : String) : (renderText s).all (isPlain gap) = true := by
  refine List.all_eq_true.2 fun c hc => isPlain_of_le ?_
  simp only [renderText, List.mem_cons, List.mem_append, List.mem_flatMap, List.not_mem_nil,
    or_false] at hc
  rcases hc with rfl | ⟨d, -, hd⟩ | rfl
  · decide
  · exact le_of_mem_escape hd
  · decide

theorem le_of_mem_toDigits {n : Nat} {c : Char} (h : c ∈ Nat.toDigits 10 n) : 0x20 ≤ c.toNat := by
  have hdigit := Nat.isDigit_of_mem_toDigits (by decide) (by decide) h
  simp only [Char.isDigit, Bool.and_eq_true, decide_eq_true_eq, ge_iff_le,
    UInt32.le_iff_toNat_le] at hdigit
  have hlow : 48 ≤ c.val.toNat := hdigit.1
  change 0x20 ≤ c.val.toNat
  omega

theorem all_isPlain_whole (k : Int) : (Number.render (.whole k)).all (isPlain gap) = true := by
  have hdigits : ∀ c ∈ Nat.toDigits 10 k.natAbs, isPlain gap c = true :=
    fun c hc => isPlain_of_le (le_of_mem_toDigits hc)
  rw [Number.render]
  split
  · exact List.all_eq_true.2 (List.forall_mem_cons.2 ⟨isPlain_of_le (by decide), hdigits⟩)
  · exact List.all_eq_true.2 hdigits

theorem Spelled.all_isPlain {n : Nat} {j : Json} {t : List Char} (h : Spelled gap n j t) :
    t.all (isPlain gap) = true := by
  have hmark (c : Char) (hc : 0x20 ≤ c.toNat) : isPlain gap c = true := isPlain_of_le hc
  induction h with
  | null n => simp [hmark]
  | bool n b => cases b <;> simp [render, hmark]
  | whole n hk => exact all_isPlain_whole _
  | text n s => exact all_isPlain_renderText s
  | list hbefore hlast h ih =>
      rw [List.all_cons, isPlain_of_le (by decide), Bool.true_and]
      exact all_partsText (all_isPlain_gap hbefore) (all_isPlain_gap hlast)
        (isPlain_of_le (by decide)) (isPlain_of_le (by decide)) (List.forall_mem_map.2 ih) true
  | object hbefore hlast hcolon hsorted h ih =>
      rw [List.all_cons, isPlain_of_le (by decide), Bool.true_and]
      refine all_partsText (all_isPlain_gap hbefore) (all_isPlain_gap hlast)
        (isPlain_of_le (by decide)) (isPlain_of_le (by decide)) (List.forall_mem_map.2 ?_) true
      intro m hm
      refine all_memberText (all_isPlain_renderText m.1) (isPlain_of_le (by decide)) ?_
      rw [List.all_append, all_isPlain_gap hcolon, ih m hm]
      rfl

end Values

end LiveTree.Json
