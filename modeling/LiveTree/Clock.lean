import LiveTree.Span

namespace LiveTree

structure Instant where
  nanos : Int
  deriving DecidableEq, Repr

namespace Instant

def origin : Instant :=
  ⟨0⟩

def limit : Int :=
  0x8000000000000000 * nanosPerSecond

def add? (t : Instant) (d : Span) : Option Instant :=
  if t.nanos + d.nanos < limit then some ⟨t.nanos + d.nanos⟩ else none

def since (later earlier : Instant) : Span :=
  Span.ofNanos (later.nanos - earlier.nanos).toNat

def IsBefore (s t : Instant) : Prop :=
  s.nanos < t.nanos

instance (s t : Instant) : Decidable (s.IsBefore t) :=
  inferInstanceAs (Decidable (s.nanos < t.nanos))

theorem add?_eq_none_iff (t : Instant) (d : Span) :
    t.add? d = none ↔ limit ≤ t.nanos + d.nanos := by
  simp [add?]

theorem nanos_of_add? {t u : Instant} {d : Span} (h : t.add? d = some u) :
    u.nanos = t.nanos + d.nanos := by
  simp only [add?] at h
  split at h <;> simp_all
  rw [← h]

end Instant

end LiveTree
