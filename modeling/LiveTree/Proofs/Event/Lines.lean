import LiveTree.Proofs.Event.Rereading

namespace LiveTree

namespace Decimal

theorem mem_toDigits_of_mem_ofGrid {c : Nat} {t : Int} {x : Char}
    (h : x ∈ (Digits.ofGrid c t).digits) : x ∈ Nat.toDigits 10 c := by
  rw [Digits.ofGrid, List.mem_reverse] at h
  exact List.mem_reverse.1 (List.dropWhile_sublist _ |>.subset h)

theorem exists_toDigits_of_mem_search (i : Interval) (k : Int) (count more : Nat) {x : Char}
    (h : x ∈ (i.search k count more).digits) : ∃ n, x ∈ Nat.toDigits 10 n := by
  induction more generalizing count with
  | zero => exact ⟨_, mem_toDigits_of_mem_ofGrid h⟩
  | succ more ih =>
      rw [Interval.search] at h
      split at h
      · exact ⟨_, mem_toDigits_of_mem_ofGrid h⟩
      · exact ih (count + 1) h

variable {p : Char → Bool} {d : Digits}

theorem all_positional (hd : d.digits.all p = true) (hzero : p '0' = true) (hpoint : p '.' = true) :
    d.positional.all p = true := by
  have hsome (n : Nat) : (d.digits.take n).all p = true ∧ (d.digits.drop n).all p = true := by
    rwa [← Bool.and_eq_true, ← List.all_append, List.take_append_drop]
  rw [Digits.positional]
  split
  · by_cases hf : d.digits.drop (d.exponent.toNat + 1) = []
    · simp [hf, hsome, hzero, hpoint]
    · simp [hf, hsome, hzero, hpoint]
  · simp [hd, hzero, hpoint]

theorem all_scientific (hd : d.digits.all p = true) (hpoint : p '.' = true) (he : p 'e' = true)
    (hplus : p '+' = true) (hminus : p '-' = true)
    (hdigits : ∀ n, (Nat.toDigits 10 n).all p = true) : d.scientific.all p = true := by
  have hsign : p (if d.exponent < 0 then '-' else '+') = true := by split <;> assumption
  rw [Digits.scientific]
  simp only [List.all_append, List.all_cons, he, hsign, hdigits, Bool.and_true]
  split
  · next c e rest hds => simpa [hds, hpoint] using hd
  · exact hd

theorem all_layOut (x : Binary64) (l : Layout) (hmarks : ∀ c ∈ ['0', '.', 'e', '+', '-'], p c = true)
    (hdigits : ∀ n, (Nat.toDigits 10 n).all p = true) : (x.layOut l).all p = true := by
  simp only [List.forall_mem_cons] at hmarks
  obtain ⟨hzero, hpoint, he, hplus, hminus, -⟩ := hmarks
  have hshortest : (shortest x).digits.all p = true := by
    refine List.all_eq_true.2 fun c hc => ?_
    obtain ⟨n, hn⟩ := exists_toDigits_of_mem_search _ _ _ _ hc
    exact List.all_eq_true.1 (hdigits n) c hn
  have hlaid : ((shortest x).layOut l).all p = true := by
    rw [Digits.layOut]
    split
    · exact all_positional hshortest hzero hpoint
    · exact all_scientific hshortest hpoint he hplus hminus hdigits
  have hmagnitude :
      (if x.significand = 0 then ['0', '.', '0'] else (shortest x).layOut l).all p = true := by
    split
    · simp [hzero, hpoint]
    · exact hlaid
  rw [Binary64.layOut]
  split
  · rw [List.all_cons, hminus, hmagnitude]
    rfl
  · exact hmagnitude

end Decimal

namespace Json

variable {gap : Char → Bool}

theorem all_isPlain_number (n : Number) : n.render.all (isPlain gap) = true := by
  cases n with
  | whole k => exact all_isPlain_whole k
  | double x =>
      have hmark (c : Char) (hc : 0x20 ≤ c.toNat) : isPlain gap c = true := isPlain_of_le hc
      refine Decimal.all_layOut x _ (by simp [hmark]) fun n => ?_
      exact List.all_eq_true.2 fun c hc => isPlain_of_le (le_of_mem_toDigits hc)

mutual
theorem all_isPlain_render (j : Json) : j.render.all (isPlain gap) = true := by
  have hmark (c : Char) (hc : 0x20 ≤ c.toNat) : isPlain gap c = true := isPlain_of_le hc
  match j with
  | .null => simp [render, hmark]
  | .bool b => cases b <;> simp [render, hmark]
  | .number n => exact all_isPlain_number n
  | .text s => exact all_isPlain_renderText s
  | .list [] => simp [render, hmark]
  | .list (x :: xs) => simp [render, hmark, all_isPlain_render x, all_isPlain_renderItems xs]
  | .object [] => simp [render, hmark]
  | .object ((k, x) :: xs) =>
      simp [render, hmark, all_isPlain_renderText k, all_isPlain_render x,
        all_isPlain_renderMembers xs]

theorem all_isPlain_renderItems (xs : List Json) :
    (renderItems xs).all (isPlain gap) = true := by
  have hmark (c : Char) (hc : 0x20 ≤ c.toNat) : isPlain gap c = true := isPlain_of_le hc
  match xs with
  | [] => simp [renderItems, hmark]
  | x :: xs => simp [renderItems, hmark, all_isPlain_render x, all_isPlain_renderItems xs]

theorem all_isPlain_renderMembers (ms : List (String × Json)) :
    (renderMembers ms).all (isPlain gap) = true := by
  have hmark (c : Char) (hc : 0x20 ≤ c.toNat) : isPlain gap c = true := isPlain_of_le hc
  match ms with
  | [] => simp [renderMembers, hmark]
  | (k, x) :: ms =>
      simp [renderMembers, hmark, all_isPlain_renderText k, all_isPlain_render x,
        all_isPlain_renderMembers ms]
end

end Json

namespace Event

theorem all_isPlain_render {gap : Char → Bool} (e : Event) :
    e.render.all (Json.isPlain gap) = true := by
  have hmark (c : Char) (hc : 0x20 ≤ c.toNat) : Json.isPlain gap c = true := Json.isPlain_of_le hc
  have hmember (key : String) {text : List Char} (h : text.all (Json.isPlain gap) = true) :
      (Json.memberText key text).all (Json.isPlain gap) = true :=
    Json.all_memberText (Json.all_isPlain_renderText key) (hmark ':' (by decide)) h
  have hsnapshot : ∀ t ∈ snapshotTexts e.snapshot, t.all (Json.isPlain gap) = true := by
    rw [snapshotTexts]
    cases e.snapshot with
    | none => exact List.forall_mem_nil _
    | some s =>
        exact List.forall_mem_singleton.2 (hmember "snapshot" s.all_isPlain_render)
  rw [render_eq, List.all_cons, hmark _ (by decide), Bool.true_and]
  refine Json.all_partsText rfl rfl (hmark ',' (by decide)) (hmark _ (by decide)) ?_ true
  simp only [List.forall_mem_cons]
  exact ⟨hmember "kind" (Json.all_isPlain_renderText _),
    hmember "path" (Json.all_isPlain_renderText _), hmember "data" e.data.all_isPlain_render,
    hsnapshot⟩

theorem lineFeed_not_mem_render (e : Event) : '\n' ∉ e.render := by
  intro h
  have hplain : Json.isPlain Json.noGap '\n' = true :=
    List.all_eq_true.1 e.all_isPlain_render _ h
  exact nomatch hplain

end Event

end LiveTree
