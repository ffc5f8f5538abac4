import LiveTree.Proofs.Json.Printing
import LiveTree.Proofs.Text.ByteOrder
import LiveTree.Proofs.Text.Form
import LiveTree.Query

namespace LiveTree.Query

inductive Edit where
  | set (key value : String)
  | remove (key : String)
  | toggle (key value : String) (on : Bool)
  | shallow (on : Bool)
  | priority (on : Bool)
  | json (key : String) (j : Json)
  deriving DecidableEq

def apply (q : Query) : Edit → Query
  | .set key value => q.set key value
  | .remove key => q.remove key
  | .toggle key value on => q.toggle key value on
  | .shallow on => q.setShallow on
  | .priority on => q.setPriority on
  | .json key j => q.setJson key j

def Edit.key : Edit → String
  | .set key _ | .remove key | .toggle key _ _ | .json key _ => key
  | .shallow _ => "shallow"
  | .priority _ => "format"

def Edit.value? : Edit → Option String
  | .set _ value => some value
  | .remove _ => none
  | .toggle _ value on => if on then some value else none
  | .shallow on => if on then some "true" else none
  | .priority on => if on then some "export" else none
  | .json _ j => some j.compact

/-- The last edit of a key decides. -/
def valueAfter (edits : List Edit) (key : String) : Option String :=
  ((edits.filter (·.key = key)).getLast?).bind Edit.value?

theorem apply_eq (q : Query) (e : Edit) :
    q.apply e = e.value?.elim (q.remove e.key) (q.set e.key) := by
  cases e with
  | set | remove | json => rfl
  | toggle key value on => cases on <;> rfl
  | shallow on | priority on => cases on <;> rfl

theorem sorted_apply {q : Query} (h : q.options.Sorted) (e : Edit) :
    (q.apply e).options.Sorted := by
  rw [apply_eq]
  cases e.value? with
  | none => exact q.sorted_remove h e.key
  | some value => exact q.sorted_set h e.key value

theorem sorted_foldl {q : Query} (h : q.options.Sorted) (edits : List Edit) :
    (edits.foldl apply q).options.Sorted := by
  induction edits generalizing q with
  | nil => exact h
  | cons e edits ih => exact ih (sorted_apply h e)

theorem get?_apply_self {q : Query} (h : q.options.Sorted) (e : Edit) :
    (q.apply e).get? e.key = e.value? := by
  rw [apply_eq]
  cases e.value? with
  | none => exact Keyed.get?_erase_self e.key h
  | some value => exact q.get?_set_self e.key value

theorem get?_apply_of_ne (q : Query) {e : Edit} {key : String} (h : key ≠ e.key) :
    (q.apply e).get? key = q.get? key := by
  rw [apply_eq]
  cases e.value? with
  | none => exact q.get?_remove_of_ne h
  | some value => exact q.get?_set_of_ne h value

theorem get?_foldl {q : Query} (h : q.options.Sorted) (edits : List Edit) (key : String) :
    (edits.foldl apply q).get? key =
      ((edits.filter (·.key = key)).getLast?).elim (q.get? key) Edit.value? := by
  induction edits generalizing q with
  | nil => rfl
  | cons e edits ih =>
      rw [List.foldl_cons, ih (sorted_apply h e)]
      by_cases hkey : e.key = key
      · subst hkey
        rw [List.filter_cons_of_pos (by simp), List.getLast?_cons, get?_apply_self h]
        cases (edits.filter (·.key = e.key)).getLast? <;> rfl
      · rw [List.filter_cons_of_neg (by simpa using hkey), get?_apply_of_ne q (Ne.symm hkey)]

theorem get?_foldl_empty (edits : List Edit) (key : String) :
    (edits.foldl apply empty).get? key = valueAfter edits key := by
  have hsorted : empty.options.Sorted := List.Pairwise.nil
  rw [get?_foldl hsorted, valueAfter]
  cases (edits.filter (·.key = key)).getLast? <;> rfl

theorem decode_encode (q : Query) : Text.Form.decode q.encode = q.options :=
  Text.Form.decode_encode q.options

theorem encode_inj {p q : Query} : p.encode = q.encode ↔ p = q := by
  constructor
  · intro htext
    have hoptions : p.options = q.options := by
      rw [← decode_encode, htext, decode_encode]
    exact congrArg Query.mk hoptions
  · rintro rfl
    rfl

theorem encode_eq_nil_iff (q : Query) : q.encode = [] ↔ q.isEmpty = true := by
  rw [encode, Text.Form.encode_eq_nil_iff, isEmpty, List.isEmpty_iff]

theorem mem_options_iff {q : Query} (h : q.options.Sorted) (key value : String) :
    (key, value) ∈ q.options ↔ q.get? key = some value :=
  ⟨Keyed.get?_of_mem h, Keyed.mem_of_get?⟩

theorem pairwise_encode {q : Query} (h : q.options.Sorted) : q.options.Pairwise fun a b =>
    Text.Utf8.encode a.1.toList < Text.Utf8.encode b.1.toList :=
  h.imp Text.Utf8.encode_lt

theorem ofString_compact_text (s : String) : Json.ofString (Json.text s).compact = .ok (.text s) := by
  have hread := ((Json.Portable.text (Json.depthBudget - 1) s).spelled_render).ofBytes
    Json.isGap_of_noGap
  rwa [Json.ofString, Json.compact, String.toList_ofList]

/-- The mark that separates names from values, the one between pairs, and what stands for blanks
and for bytes; nothing else but letters, digits and four marks that stand for themselves. -/
theorem all_encode_marks (q : Query) : q.encode.all (fun c =>
    c.isAlphanum || "*-._+%&=".toList.contains c) = true := by
  refine List.all_eq_true.2 fun c hc => ?_
  have hwritten := List.all_eq_true.1 (Text.Form.all_encode q.options) c hc
  simp only [Text.Form.isWritten, Text.Form.isRaw] at hwritten
  simpa [or_assoc] using hwritten

/-- A query string is read back as the options of the edits that made it: for each key the value that
was set last, in the order of the keys' bytes. Different options have different query strings, and
these hold only characters that a query keeps as they are. -/
theorem read_as_set (edits : List Edit) :
    let q := edits.foldl apply empty
    let read := Text.Form.decode q.encode
    read = q.options ∧
      (∀ key value, (key, value) ∈ read ↔ valueAfter edits key = some value) ∧
      (read.Pairwise fun a b => Text.Utf8.encode a.1.toList < Text.Utf8.encode b.1.toList) ∧
      (∀ a b : Query, a.encode = b.encode ↔ a = b) ∧
      (q.encode = [] ↔ q.isEmpty = true) ∧
      q.encode.all (fun c => c.isAlphanum || "*-._+%&=".toList.contains c) = true ∧
      ∀ key, ∃ text, Json.ofString text = .ok (.text key) ∧
        ∀ value, ("orderBy", value) ∈ Text.Form.decode (q.orderBy key).encode ↔ value = text := by
  intro q read
  have hread : read = q.options := decode_encode q
  have hsorted : q.options.Sorted := sorted_foldl List.Pairwise.nil edits
  refine ⟨hread, fun key value => ?_, ?_, fun _ _ => encode_inj, encode_eq_nil_iff q,
    all_encode_marks q, fun key => ?_⟩
  · rw [hread, mem_options_iff hsorted, get?_foldl_empty]
  · rw [hread]
    exact pairwise_encode hsorted
  · refine ⟨(Json.text key).compact, ofString_compact_text key, fun value => ?_⟩
    have hordered : (q.orderBy key).options.Sorted := q.sorted_set hsorted _ _
    have hvalue : (q.orderBy key).get? "orderBy" = some (Json.text key).compact :=
      q.get?_set_self _ _
    rw [decode_encode, mem_options_iff hordered, hvalue, Option.some_inj]
    exact eq_comm

end LiveTree.Query
