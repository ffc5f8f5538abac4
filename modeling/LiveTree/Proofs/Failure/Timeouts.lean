import LiveTree.Failure.Basic

namespace LiveTree

def Link.isIo : Link → Bool
  | .io _ => true
  | _ => false

def Link.hasCause : Link → Bool
  | .wrap => true
  | .io _ => true
  | _ => false

namespace Chain

/-- Nothing stands behind a link that has no cause. -/
def IsProper (c : Chain) : Prop :=
  ∀ l ∈ c.dropLast, l.hasCause = true

instance (c : Chain) : Decidable c.IsProper :=
  inferInstanceAs (Decidable (∀ l ∈ c.dropLast, l.hasCause = true))

def isHeldBy (before : Chain) : Bool :=
  before.getLast?.any Link.isIo

theorem isHeldBy_cons_cons (k l : Link) (before : Chain) :
    isHeldBy (k :: l :: before) = isHeldBy (l :: before) := by
  rw [isHeldBy, isHeldBy, List.getLast?_cons_cons]

theorem IsProper.tail {k : Link} {c : Chain} (h : IsProper (k :: c)) : IsProper c := by
  cases c with
  | nil => simp [IsProper]
  | cons l c => exact fun m hm => h m (by simp [hm])

theorem IsProper.hasCause {k l : Link} {c : Chain} (h : IsProper (k :: l :: c)) :
    k.hasCause = true :=
  h k (by simp)

theorem walk_cons {k : Link} {c : Chain} (h : IsProper (k :: c)) (met : Bool) :
    walk met (k :: c) = if met then k :: walk (!k.isIo) c else walk (!k.isIo) c := by
  cases c with
  | nil => cases k <;> rfl
  | cons l c =>
      have hk := h.hasCause
      cases k with
      | wrap | io => rfl
      | dial | elapsed | other => exact nomatch hk

theorem mem_walk_iff {c : Chain} (h : IsProper c) (met : Bool) (l : Link) :
    l ∈ walk met c ↔ ∃ before after, c = before ++ l :: after ∧
      (before = [] → met = true) ∧ isHeldBy before = false := by
  induction c generalizing met with
  | nil => simp [walk]
  | cons k c ih =>
      have hrest : l ∈ walk (!k.isIo) c ↔ ∃ before after, k :: c = k :: before ++ l :: after ∧
          isHeldBy (k :: before) = false := by
        rw [ih h.tail]
        constructor
        · rintro ⟨before, after, rfl, hmet, hheld⟩
          refine ⟨before, after, rfl, ?_⟩
          cases before with
          | nil => simpa [isHeldBy] using hmet
          | cons j before => rw [isHeldBy_cons_cons, hheld]
        · rintro ⟨before, after, heq, hheld⟩
          refine ⟨before, after, (List.cons.inj heq).2, ?_⟩
          cases before with
          | nil => simpa [isHeldBy] using hheld
          | cons j before => simpa [isHeldBy_cons_cons] using hheld
      have hmem : l ∈ walk met (k :: c) ↔ met = true ∧ l = k ∨ l ∈ walk (!k.isIo) c := by
        rw [walk_cons h]
        cases met <;> simp
      rw [hmem, hrest]
      constructor
      · rintro (⟨hmet, rfl⟩ | ⟨before, after, heq, hheld⟩)
        · exact ⟨[], c, rfl, fun _ => hmet, rfl⟩
        · exact ⟨k :: before, after, heq, by simp, hheld⟩
      · rintro ⟨before, after, heq, hmet, hheld⟩
        cases before with
        | nil => exact .inl ⟨hmet rfl, (List.cons.inj heq).1.symm⟩
        | cons j before =>
            obtain rfl := (List.cons.inj heq).1
            exact .inr ⟨before, after, heq, hheld⟩

theorem isTimeout_iff {c : Chain} (h : c.IsProper) :
    c.isTimeout = true ↔ ∃ before l after, c = before ++ l :: after ∧
      isTimeoutLink l = true ∧ isHeldBy before = false := by
  rw [isTimeout, List.any_eq_true]
  constructor
  · rintro ⟨l, hl, ht⟩
    obtain ⟨before, after, hc, -, hheld⟩ := (mem_walk_iff h true l).1 hl
    exact ⟨before, l, after, hc, ht, hheld⟩
  · rintro ⟨before, l, after, hc, ht, hheld⟩
    exact ⟨l, (mem_walk_iff h true l).2 ⟨before, after, hc, fun _ => rfl, hheld⟩, ht⟩

end Chain

namespace Failure

theorem ofChain_eq_timeout_iff (c : Chain) (text : String) :
    ofChain c text = .timeout text ↔ c.isTimeout = true := by
  rw [ofChain]
  split <;> simp_all

/-- A failure of the transport is a timeout exactly if a link of its chain tells of one that is not
held by an I/O error; one that is held is passed over. -/
theorem ofChain_finds_timeout {c : Chain} (h : c.IsProper) (text : String) :
    (ofChain c text = .timeout text ↔ ∃ before l after, c = before ++ l :: after ∧
        Chain.isTimeoutLink l = true ∧ Chain.isHeldBy before = false) ∧
      (ofChain c text = .timeout text ∨ ofChain c text = .transport text) := by
  refine ⟨?_, ?_⟩
  · rw [ofChain_eq_timeout_iff, Chain.isTimeout_iff h]
  · rw [ofChain]
    split
    · exact .inl rfl
    · exact .inr rfl

/-- An elapsed timer is found behind the cause of an I/O error; one that an I/O error holds is not,
and the failure is none of its own either. -/
theorem ofChain_finds_timeout_behind_wrap : ∃ seen held : Chain, seen.IsProper ∧ held.IsProper ∧
    .elapsed ∈ seen ∧ .elapsed ∈ held ∧
      ofChain seen "broken" = .timeout "broken" ∧ ofChain held "broken" = .transport "broken" := by
  let seen : Chain := [.io .other, .wrap, .elapsed]
  let held : Chain := [.wrap, .io .connectionReset, .elapsed]
  have hseen : seen.IsProper := by decide
  have hheld : held.IsProper := by decide
  refine ⟨seen, held, hseen, hheld, by decide, by decide, ?_, ?_⟩
  · exact (ofChain_finds_timeout hseen "broken").1.2
      ⟨[.io .other, .wrap], .elapsed, [], rfl, by decide, by decide⟩
  · refine (ofChain_finds_timeout hheld "broken").2.resolve_left ?_
    decide

/-- A dial that took too long, held by an I/O error, makes no timeout. -/
theorem not_ofChain_finds_held : ¬ ∀ (c : Chain) (text : String), c.IsProper →
    (ofChain c text = .timeout text ↔ ∃ l ∈ c, Chain.isTimeoutLink l = true) := by
  intro h
  have hdial := (h [.io .other, .dial (Span.ofParts 1 0)] "broken" (by decide)).2
    ⟨.dial (Span.ofParts 1 0), by simp, rfl⟩
  revert hdial
  decide

end Failure

end LiveTree
