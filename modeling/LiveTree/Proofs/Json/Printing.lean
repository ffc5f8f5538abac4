import LiveTree.Proofs.Json.Spelling

namespace LiveTree.Json

/-- Values that can be written and read without loss: nested at most so deep, with whole numbers of
64 bits only, and with their members in order. -/
inductive Portable : Nat → Json → Prop
  | null (n : Nat) : Portable n .null
  | bool (n : Nat) (b : Bool) : Portable n (.bool b)
  | whole (n : Nat) {k : Int} (h : fits64 k = true) : Portable n (.number (.whole k))
  | text (n : Nat) (s : String) : Portable n (.text s)
  | list {n : Nat} {xs : List Json} (h : ∀ x ∈ xs, Portable n x) : Portable (n + 1) (.list xs)
  | object {n : Nat} {ms : Keyed Json} (hs : ms.Sorted) (h : ∀ m ∈ ms, Portable n m.2) :
      Portable (n + 1) (.object ms)

section Parts

variable {gap : Char → Bool} {n : Nat} {before last : List Char}
  (hbefore : ∀ c ∈ before, gap c = true) (hlast : ∀ c ∈ last, gap c = true)
include hbefore hlast

theorem Spelled.list_map {xs : List Json} {f : Json → List Char}
    (h : ∀ x ∈ xs, Spelled gap n x (f x)) :
    Spelled gap (n + 1) (.list xs) ('[' :: partsText before last ']' true (xs.map f)) := by
  have hspelled : ∀ i ∈ xs.map fun x => (x, f x), Spelled gap n i.1 i.2 := List.forall_mem_map.2 h
  have hitems := Spelled.list hbefore hlast hspelled
  simpa [List.map_map, Function.comp_def] using hitems

theorem Spelled.object_map {colon : List Char} (hcolon : ∀ c ∈ colon, gap c = true)
    {ms : Keyed Json} (hs : ms.Sorted) {f : Json → List Char}
    (h : ∀ m ∈ ms, Spelled gap n m.2 (f m.2)) :
    Spelled gap (n + 1) (.object ms) ('\x7b' :: partsText before last '\x7d' true
      (ms.map fun m => memberText m.1 (colon ++ f m.2))) := by
  have hspelled : ∀ m ∈ ms.map fun m => (m.1, m.2, f m.2), Spelled gap n m.2.1 m.2.2 :=
    List.forall_mem_map.2 h
  have hmembers := Spelled.object hbefore hlast hcolon
    (by simpa [List.map_map, Function.comp_def] using hs) hspelled
  simpa [List.map_map, Function.comp_def] using hmembers

end Parts

section Compact

def noGap (_ : Char) : Bool :=
  false

theorem noGap_of_mem_nil : ∀ c ∈ ([] : List Char), noGap c = true :=
  List.forall_mem_nil _

theorem isGap_of_noGap (c : Char) (h : noGap c = true) : isGap c = true :=
  nomatch h

theorem renderItems_eq (xs : List Json) :
    renderItems xs = partsText [] [] ']' false (xs.map render) := by
  induction xs with
  | nil => rfl
  | cons x xs ih => rw [renderItems, ih]; rfl

theorem render_list (xs : List Json) :
    render (.list xs) = '[' :: partsText [] [] ']' true (xs.map render) := by
  cases xs with
  | nil => rfl
  | cons x xs => rw [render, renderItems_eq]; rfl

theorem renderMembers_eq (ms : Keyed Json) :
    renderMembers ms = partsText [] [] '\x7d' false
      (ms.map fun m => memberText m.1 ([] ++ render m.2)) := by
  induction ms with
  | nil => rfl
  | cons m ms ih => simp [renderMembers, ih, partsText, partMark, memberText]

theorem render_object (ms : Keyed Json) :
    render (.object ms) = '\x7b' :: partsText [] [] '\x7d' true
      (ms.map fun m => memberText m.1 ([] ++ render m.2)) := by
  cases ms with
  | nil => rfl
  | cons m ms => simp [render, renderMembers_eq, partsText, partMark, memberText]

theorem Portable.spelled_render {n : Nat} {j : Json} (h : Portable n j) :
    Spelled noGap n j j.render := by
  induction h with
  | null n => exact .null n
  | bool n b => exact .bool n b
  | whole n hk => exact .whole n hk
  | text n s => exact .text n s
  | list h ih =>
      rw [render_list]
      exact Spelled.list_map noGap_of_mem_nil noGap_of_mem_nil ih
  | object hs h ih =>
      rw [render_object]
      exact Spelled.object_map noGap_of_mem_nil noGap_of_mem_nil noGap_of_mem_nil hs ih

end Compact

section Pretty

variable (depth : Nat)

theorem isGap_of_mem_lineAt : ∀ c ∈ lineAt depth, isGap c = true := by
  intro c hc
  rcases List.mem_cons.1 hc with rfl | hc
  · rfl
  · rw [List.eq_of_mem_replicate hc]
    rfl

theorem prettyItems_eq (xs : List Json) :
    prettyItems depth xs = partsText (lineAt (depth + 1)) (lineAt depth) ']' false
      (xs.map (renderPretty (depth + 1))) := by
  induction xs with
  | nil => simp [prettyItems, partsText]
  | cons x xs ih => simp [prettyItems, ih, partsText, partMark]

theorem renderPretty_list (xs : List Json) : ∃ last, (∀ c ∈ last, isGap c = true) ∧
    renderPretty depth (.list xs) = '[' :: partsText (lineAt (depth + 1)) last ']' true
      (xs.map (renderPretty (depth + 1))) := by
  cases xs with
  | nil => exact ⟨[], List.forall_mem_nil _, by simp [renderPretty, partsText]⟩
  | cons x xs =>
      refine ⟨lineAt depth, isGap_of_mem_lineAt depth, ?_⟩
      simp [renderPretty, prettyItems_eq, partsText, partMark]

theorem prettyMembers_eq (ms : Keyed Json) :
    prettyMembers depth ms = partsText (lineAt (depth + 1)) (lineAt depth) '\x7d' false
      (ms.map fun m => memberText m.1 ([' '] ++ renderPretty (depth + 1) m.2)) := by
  induction ms with
  | nil => simp [prettyMembers, partsText]
  | cons m ms ih => simp [prettyMembers, ih, partsText, partMark, memberText]

theorem renderPretty_object (ms : Keyed Json) : ∃ last, (∀ c ∈ last, isGap c = true) ∧
    renderPretty depth (.object ms) = '\x7b' :: partsText (lineAt (depth + 1)) last '\x7d' true
      (ms.map fun m => memberText m.1 ([' '] ++ renderPretty (depth + 1) m.2)) := by
  cases ms with
  | nil => exact ⟨[], List.forall_mem_nil _, by simp [renderPretty, partsText]⟩
  | cons m ms =>
      refine ⟨lineAt depth, isGap_of_mem_lineAt depth, ?_⟩
      simp [renderPretty, prettyMembers_eq, partsText, partMark, memberText]

theorem Portable.spelled_renderPretty {n : Nat} {j : Json} (h : Portable n j) :
    Spelled isGap n j (j.renderPretty depth) := by
  induction h generalizing depth with
  | null n => exact .null n
  | bool n b => cases b <;> exact .bool n _
  | whole n hk => exact .whole n hk
  | text n s => exact .text n s
  | list h ih =>
      obtain ⟨last, hlast, heq⟩ := renderPretty_list depth _
      rw [heq]
      exact Spelled.list_map (isGap_of_mem_lineAt _) hlast fun x hx => ih x hx (depth + 1)
  | object hs h ih =>
      obtain ⟨last, hlast, heq⟩ := renderPretty_object depth _
      rw [heq]
      exact Spelled.object_map (isGap_of_mem_lineAt _) hlast (by simp [isGap]) hs
        fun m hm => ih m hm (depth + 1)

end Pretty

end LiveTree.Json
