import LiveTree.Proofs.Location.Target
import LiveTree.Proofs.Url.Fraying
import LiveTree.Session.Operation

namespace LiveTree.Location

/-- The locations that calls lead to from a first one. -/
inductive Derived (root : Location) : Location → Prop
  | root : Derived root root
  | derive (l : Location) (d : Derivation) (h : Derived root l) : Derived root (l.derive d)
  | adjust (l : Location) (a : Adjustment) (h : Derived root l) :
      Derived root (l.updateQuery (·.adjust a))

variable {root l : Location} {method : Method} {accept agent : String} {body : Option (List UInt8)}

theorem below_concat (root : Location) (paths : List String) (path : String) (q : Query) :
    root.below (paths ++ [path]) q = { (paths.foldl child root).child path with query := q } := by
  rw [below, List.foldl_append, List.foldl_cons, List.foldl_nil]

theorem child_query (l : Location) (path : String) (q : Query) :
    ({ l with query := q } : Location).child path = { l.child path with query := q } := by
  simp only [child]
  split <;> rfl

theorem exists_below (h : root.Derived l) : ∃ paths q, l = root.below paths q := by
  induction h with
  | root => exact ⟨[], root.query, rfl⟩
  | adjust l a h ih =>
      obtain ⟨paths, q, rfl⟩ := ih
      exact ⟨paths, q.adjust a, rfl⟩
  | derive l d h ih =>
      obtain ⟨paths, q, rfl⟩ := ih
      cases d with
      | child path =>
          refine ⟨paths ++ [path], q, ?_⟩
          rw [below_concat]
          exact child_query _ path q
      | orderBy | equalTo | startAt | endAt | limitToFirst | limitToLast =>
          exact ⟨paths, _, rfl⟩

theorem request_eq_error {f : Failure} (h : l.request method accept agent body = .error f) :
    ∃ fault, f = .invalidUrl fault := by
  rw [request, requestUrl] at h
  split at h
  · next fault _ => exact ⟨fault, (Except.error.inj h).symm⟩
  · cases h

/-- A request for a handle of an accepted address is built if the address is not frayed, and refused
as no URL if it is, whatever the handle and the request. -/
theorem request_refused_iff {address : String} (hroot : ofAddress address = .ok root)
    (hl : root.Derived l) (method : Method) (accept agent : String) (body : Option (List UInt8)) :
    ((∃ r, l.request method accept agent body = .ok r) ↔ ¬ Url.IsFrayed root.address.toList) ∧
      ((∃ fault, l.request method accept agent body = .error (.invalidUrl fault)) ↔
        Url.IsFrayed root.address.toList) := by
  obtain ⟨scheme, cs, hs, haddress⟩ := exists_webText hroot
  obtain ⟨b, hb⟩ := parse_of_ofAddress hroot
  rw [haddress] at hb
  obtain ⟨a, text, front, rest, low, hfront, hread, -⟩ := Url.exists_isFront hs hb
  obtain ⟨paths, q, rfl⟩ := exists_below hl
  have hbuilt : (∃ r, (root.below paths q).request method accept agent body = .ok r) ↔
      ¬ Url.IsFrayed root.address.toList := by
    have haddress' : (root.below paths q).address.toList =
        Url.webText scheme cs ++ paths.flatMap written := by
      rw [below_address, haddress]
    have hexists : (∃ r, (root.below paths q).request method accept agent body = .ok r) ↔
        rest ≠ [] ∨ low = [] := exists_request_of_read hread haddress'
    rw [hexists, haddress, Url.isFrayed_iff hs hfront hread, Decidable.not_not]
  refine ⟨hbuilt, ?_⟩
  constructor
  · rintro ⟨fault, hfault⟩
    refine Decidable.not_not.1 fun hwhole => ?_
    obtain ⟨r, hr⟩ := hbuilt.2 hwhole
    exact nomatch hr.symm.trans hfault
  · intro hfrayed
    cases hr : (root.below paths q).request method accept agent body with
    | ok r => exact absurd hfrayed (hbuilt.1 ⟨r, hr⟩)
    | error f =>
        obtain ⟨fault, rfl⟩ := request_eq_error hr
        exact ⟨fault, rfl⟩

/-- A control character at the end of a path does no harm; at the end of a host it makes all
requests of all handles fail, though the address was accepted. -/
theorem request_refused_iff_ends :
    let calls (root : Location) : Location :=
      ((root.derive (.child "b")).updateQuery (·.adjust (.shallow true))).derive (.limitToFirst 2)
    let whole : Location := ⟨"http://db.test/a\x01", Query.empty⟩
    let frayed : Location := ⟨"http://db.test\x01", Query.empty⟩
    (ofAddress "http://db.test/a\x01/" = .ok whole ∧
      ∃ r, (calls whole).request .get Request.anything "" none = .ok r) ∧
    ofAddress "http://db.test\x01" = .ok frayed ∧
      ∃ fault, (calls frayed).request .get Request.anything "" none =
        .error (.invalidUrl fault) := by
  intro calls whole frayed
  have hcalls (root : Location) : root.Derived (calls root) :=
    .derive _ _ (.adjust _ _ (.derive _ _ .root))
  have hwhole : ofAddress "http://db.test/a\x01/" = .ok whole := by rfl
  have hfrayed : ofAddress "http://db.test\x01" = .ok frayed := by rfl
  refine ⟨⟨hwhole, ?_⟩, hfrayed, ?_⟩
  · exact (request_refused_iff hwhole (hcalls whole) _ _ _ _).1.2 (by decide +kernel)
  · exact (request_refused_iff hfrayed (hcalls frayed) _ _ _ _).2.2 (by decide +kernel)

/-- A blank before the slashes at the end of an address is accepted, and refused in every request. -/
theorem not_request_of_accepted : ¬ ∀ (address : String) (root l : Location) (fault : Url.Fault),
    ofAddress address = .ok root → root.Derived l →
      l.request .get Request.anything "" none ≠ .error (.invalidUrl fault) := by
  intro h
  let root : Location := ⟨"http://a ", Query.empty⟩
  have hroot : ofAddress "http://a /" = .ok root := by rfl
  cases hr : root.request .get Request.anything "" none with
  | ok r =>
      have hbuilt : (root.request .get Request.anything "" none).toOption.isSome = false := by
        decide +kernel
      rw [hr] at hbuilt
      exact nomatch hbuilt
  | error f =>
      obtain ⟨fault, rfl⟩ := request_eq_error hr
      exact h _ root root fault hroot .root hr

end LiveTree.Location
