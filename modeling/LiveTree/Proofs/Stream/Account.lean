import Mathlib.Control.Monad.Basic
import Mathlib.Data.List.DropRight
import LiveTree.Proofs.Stream.Feeding

namespace LiveTree.Stream

/-- The value that a line gives to a field: what stands behind the name and a colon, or no text where
the line is nothing but the name. A blank right behind the colon does not belong to it. -/
def fieldValue? (field line : List Char) : Option (List Char) :=
  if line = field then some []
  else if field ++ [':', ' '] <+: line then some (line.drop (field.length + 2))
  else if field ++ [':'] <+: line then some (line.drop (field.length + 1))
  else none

/-- The record of some lines: the last event that they name, and their data, newest first. -/
def recordOf (lines : List (List Char)) : Pending :=
  ⟨(lines.filterMap (fieldValue? eventField)).getLast?,
    (lines.filterMap (fieldValue? dataField)).reverse⟩

def saysNothing (lines : List (List Char)) : Bool :=
  lines.all fun line => fieldValue? eventField line = none && fieldValue? dataField line = none

/-- Whether nothing can follow an item in its stream. -/
def isFinal : Item → Bool
  | .ok (.change _ _) | .ok .keepAlive => false
  | .ok (.cancel _) | .ok (.authRevoked _) | .error _ => true

theorem isFinal_ok (n : Notice) : isFinal (.ok n) = n.isTerminal := by
  cases n <;> rfl

structure Account where
  items : List Item
  status : Status
  deriving DecidableEq

namespace Account

def silent : Account :=
  ⟨[], .reading⟩

def failed (f : Failure) : Account :=
  ⟨[.error f], .failed⟩

def finished (n : Notice) : Account :=
  ⟨[.ok n], .finished⟩

def after (i : Item) (a : Account) : Account :=
  ⟨i :: a.items, a.status⟩

/-- What a stream says whose next lines are given, if the lines in `opened` are those of the record
that they continue. -/
def ofLines (opened : List (List Char)) : List (List UInt8) → Account
  | [] => silent
  | raw :: rest =>
      match Text.Utf8.decode raw with
      | .error flaw => failed (.decode ("invalid UTF-8 in event stream: " ++ flaw.message))
      | .ok text =>
          let line := text.rdropWhile fun c => c = '\n' || c = '\r'
          if line ≠ [] then ofLines (opened ++ [line]) rest
          else if saysNothing opened then ofLines [] rest
          else match (recordOf opened).decode with
            | .error f => failed f
            | .ok n => if isFinal (.ok n) then finished n else after (.ok n) (ofLines [] rest)

def ofBytes (bytes : List UInt8) : Account :=
  ofLines [] (completeLines bytes)

end Account

/-- Only the last item of a stream can be final, and no item is while the stream may go on. -/
theorem Account.ofLines_isFinal (opened : List (List Char)) (lines : List (List UInt8)) :
    (ofLines opened lines).items.Pairwise (fun i _ => isFinal i = false) ∧
      ((ofLines opened lines).status = .reading →
        ∀ i ∈ (ofLines opened lines).items, isFinal i = false) := by
  induction lines generalizing opened with
  | nil => simp [ofLines, silent]
  | cons raw rest ih =>
      rw [ofLines]
      split
      · simp [failed]
      · simp only
        split
        · exact ih _
        · split
          · exact ih []
          · split
            · simp [failed]
            · next n _ =>
                by_cases hn : isFinal (.ok n) = true
                · simp [hn, finished]
                · obtain ⟨hp, hr⟩ := ih []
                  have hf : isFinal (.ok n) = false := Bool.eq_false_iff.2 hn
                  rw [if_neg hn]
                  refine ⟨List.pairwise_cons.2 ⟨fun _ _ => hf, hp⟩, fun hs => ?_⟩
                  exact List.forall_mem_cons.2 ⟨hf, hr hs⟩

theorem takeWhile_ne_colon_eq_iff {name : List Char} (h : ':' ∉ name) (line : List Char) :
    line.takeWhile (· ≠ ':') = name ↔ line = name ∨ name ++ [':'] <+: line := by
  induction name generalizing line with
  | nil =>
      cases line with
      | nil => simp
      | cons c cs =>
          by_cases hc : c = ':'
          · simp [hc]
          · simp [hc, Ne.symm hc]
  | cons a name ih =>
      obtain ⟨ha, hn⟩ : a ≠ ':' ∧ ':' ∉ name := by
        simpa [eq_comm] using h
      cases line with
      | nil => simp
      | cons c cs =>
          by_cases hc : c = ':'
          · simp [hc, Ne.symm ha, ha]
          · have hr := ih hn cs
            simp only [List.takeWhile_cons, hc, ne_eq, not_false_eq_true, decide_true, if_true,
              List.cons.injEq, List.cons_append, List.cons_prefix_cons] at hr ⊢
            rw [hr, eq_comm (a := a)]
            exact and_or_left

theorem dropSpace_eq (value : List Char) :
    dropSpace value = if [' '] <+: value then value.drop 1 else value := by
  cases value with
  | nil => rfl
  | cons c value =>
      by_cases hc : c = ' '
      · subst hc
        rw [if_pos (by simp)]
        rfl
      · rw [if_neg (by simpa [eq_comm] using hc), dropSpace]
        exact fun _ hb => hc (List.cons.inj hb).1

theorem fieldValue?_eq {field : List Char} (h : ':' ∉ field) (line : List Char) :
    fieldValue? field line =
      if (splitField line).1 = field then some (splitField line).2 else none := by
  have hs : (splitField line).1 = field ↔ line = field ∨ field ++ [':'] <+: line :=
    takeWhile_ne_colon_eq_iff h line
  have hv : (splitField line).1 = field →
      (splitField line).2 = dropSpace (line.drop (field.length + 1)) := by
    rintro rfl
    rfl
  rw [fieldValue?]
  by_cases hl : line = field
  · have he := hs.2 (.inl hl)
    rw [if_pos hl, if_pos he, hv he, hl, List.drop_eq_nil_of_le (Nat.le_succ _)]
    rfl
  · rw [if_neg hl]
    by_cases hp : field ++ [':'] <+: line
    · have he := hs.2 (.inr hp)
      obtain ⟨value, rfl⟩ := hp
      have hdrop : (field ++ [':'] ++ value).drop (field.length + 1) = value :=
        List.drop_left' (List.length_append ..)
      have htail : (field ++ [':'] ++ value).drop (field.length + 2) = value.drop 1 := by
        rw [← List.drop_drop (i := 1), hdrop]
      have hblank : field ++ [':', ' '] <+: field ++ [':'] ++ value ↔ [' '] <+: value := by
        rw [← List.prefix_append_right_inj (field ++ [':'])]
        simp
      rw [if_pos he, hv he, if_pos (List.prefix_append ..), hdrop, htail, dropSpace_eq]
      simp only [hblank, apply_ite some]
    · have hblank : ¬ field ++ [':', ' '] <+: line := by
        rintro ⟨value, rfl⟩
        exact hp ⟨' ' :: value, by simp⟩
      rw [if_neg hblank, if_neg hp, if_neg fun he => (hs.1 he).elim hl hp]

theorem recordOf_nil : recordOf [] = Pending.empty := rfl

theorem recordOf_append_line (lines : List (List Char)) (line : List Char) :
    recordOf (lines ++ [line]) = (recordOf lines).pushLine line := by
  have he := @fieldValue?_eq eventField (by decide) line
  have hd := @fieldValue?_eq dataField (by decide) line
  have hne : eventField ≠ dataField := by decide
  rw [recordOf, recordOf, Pending.pushLine, List.filterMap_append, List.filterMap_append]
  by_cases h₁ : (splitField line).1 = eventField
  · simp [he, hd, h₁, hne]
  · by_cases h₂ : (splitField line).1 = dataField
    · simp [he, hd, h₂, Ne.symm hne]
    · simp [he, hd, h₁, h₂]

theorem isEmpty_recordOf (lines : List (List Char)) :
    (recordOf lines).isEmpty = saysNothing lines := by
  rw [Bool.eq_iff_iff, Pending.isEmpty_iff]
  simp [saysNothing, recordOf, Pending.empty, List.filterMap_eq_nil_iff, forall_and]

namespace Transcript

theorem foldl_addLine_eq (opened : List (List Char)) (items : List Item)
    (lines : List (List UInt8)) :
    (lines.foldl addLine ⟨recordOf opened, items, .reading⟩).items =
        items ++ (Account.ofLines opened lines).items ∧
      (lines.foldl addLine ⟨recordOf opened, items, .reading⟩).status =
        (Account.ofLines opened lines).status := by
  induction lines generalizing opened items with
  | nil => simp [Account.ofLines, Account.silent]
  | cons raw rest ih =>
      have hstop (t : Transcript) (ht : t.status ≠ .reading) : rest.foldl addLine t = t :=
        foldl_addLine_of_ne ht rest
      rw [List.foldl_cons, Account.ofLines, addLine, if_neg (by simp), Decoder.lineText]
      cases Text.Utf8.decode raw with
      | error flaw => simp [Except.map, hstop, Account.failed]
      | ok text =>
          have hl : (text.rdropWhile fun c => c = '\n' || c = '\r') =
              Text.dropEndWhile Decoder.isLineEnd text := rfl
          simp only [Except.map, hl, isFinal_ok]
          cases Text.dropEndWhile Decoder.isLineEnd text with
          | cons c cs =>
              simp only [ne_eq, reduceCtorEq, not_false_eq_true, if_true, ← recordOf_append_line]
              exact ih _ _
          | nil =>
              simp only [ne_eq, not_true_eq_false, if_false, closeRecord, isEmpty_recordOf]
              by_cases he : saysNothing opened = true
              · have hr : recordOf opened = recordOf [] :=
                  (Pending.isEmpty_iff _).1 ((isEmpty_recordOf opened).trans he)
                rw [if_pos he, if_pos he, hr]
                exact ih [] items
              · rw [if_neg he, if_neg he]
                cases (recordOf opened).decode with
                | error f => simp [hstop, Account.failed]
                | ok n =>
                    by_cases hn : n.isTerminal = true
                    · simp [hn, hstop, Account.finished]
                    · have hr := ih [] (items ++ [.ok n])
                      rw [List.append_assoc, recordOf_nil] at hr
                      simpa [hn, Account.after] using hr

theorem ofBytes_eq (bytes : List UInt8) :
    (ofBytes bytes).items = (Account.ofBytes bytes).items ∧
      (ofBytes bytes).status = (Account.ofBytes bytes).status :=
  foldl_addLine_eq [] [] (completeLines bytes)

end Transcript

end LiveTree.Stream
