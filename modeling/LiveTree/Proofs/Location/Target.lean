import Mathlib.Control.Monad.Basic
import LiveTree.Exchange.Request
import LiveTree.Proofs.Text.Form
import LiveTree.Proofs.Url.Extension
import LiveTree.Proofs.Url.Steps
import LiveTree.Proofs.Url.Tails

namespace LiveTree

open Url (IsWeb webText kept Asks EndsPlainly namesOf followed climbs renderNames)

namespace Url

def SharesOrigin (u v : Url) : Prop :=
  u.scheme = v.scheme ∧ u.host = v.host ∧ u.portNumber = v.portNumber

theorem isEncodedInQuery_of_isWritten {c : Char} (h : Text.Form.isWritten c = true)
    (special : Bool) : isEncodedInQuery special c = false := by
  have hbounds := Text.Form.bounds_of_isWritten h
  have hne (d : Char) (hd : Text.Form.isWritten d = false) : c ≠ d := by
    rintro rfl
    rw [hd] at h
    cases h
  have hcontrol : isControl c = false := by
    simp only [isControl, Bool.or_eq_false_iff, decide_eq_false_iff_not]
    omega
  have hascii : isAscii c = true := by
    simp only [isAscii, decide_eq_true_eq]
    omega
  have hmarks : " \"#<>".toList = [' ', '"', '#', '<', '>'] := by decide
  rw [isEncodedInQuery, isEncodedAlways, hcontrol, hascii, hmarks]
  simp [hne ' ' (by decide), hne '"' (by decide), hne '#' (by decide), hne '<' (by decide),
    hne '>' (by decide), hne '\'' (by decide)]

theorem withQuery_form (u : Url) (pairs : List (String × String)) :
    u.withQuery (Text.Form.encode pairs) = { u with query := some (Text.Form.encode pairs) } := by
  have hall := List.all_eq_true.1 (Text.Form.all_encode pairs)
  have hkept : kept (Text.Form.encode pairs) = Text.Form.encode pairs := by
    refine kept_eq_self fun c hc => ?_
    have := Text.Form.bounds_of_isWritten (hall c hc)
    omega
  have hencode : encodeQuery (kindOf u.scheme ≠ .other) (Text.Form.encode pairs) =
      Text.Form.encode pairs :=
    Text.Percent.encode_eq_self fun c hc => isEncodedInQuery_of_isWritten (hall c hc) _
  rw [withQuery, ← kept, hkept, hencode]

end Url

namespace Location

def written (path : String) : List Char :=
  let step := Text.trimBy isSlash path.toList
  if step = [] then [] else '/' :: step

def names (path : String) : List (List Char) :=
  let step := Text.trimBy isSlash path.toList
  if step = [] then [] else namesOf (Url.isSlashOf true) (kept step)

/-- The location that some paths lead to, one after the other, with some options. -/
def below (l : Location) (paths : List String) (q : Query) : Location :=
  { paths.foldl child l with query := q }

theorem child_address (l : Location) (path : String) :
    (l.child path).address.toList = l.address.toList ++ written path := by
  rw [child, written]
  split <;> simp [*]

theorem below_address (l : Location) (paths : List String) (q : Query) :
    (l.below paths q).address.toList = l.address.toList ++ paths.flatMap written := by
  change (paths.foldl child l).address.toList = _
  induction paths generalizing l with
  | nil => simp
  | cons path paths ih => rw [List.foldl_cons, ih, child_address, List.flatMap_cons, List.append_assoc]

section Addresses

theorem dropEndWhile_append (p : Char → Bool) (cs ds : List Char) :
    Text.dropEndWhile p (cs ++ ds) =
      if Text.dropEndWhile p ds = [] then Text.dropEndWhile p cs
      else cs ++ Text.dropEndWhile p ds := by
  simp only [Text.dropEndWhile, List.reverse_append, List.dropWhile_append, List.isEmpty_iff,
    List.reverse_eq_nil_iff]
  split <;> simp

theorem webText_eq (scheme cs : List Char) :
    webText scheme cs = scheme ++ [':', '/', '/'] ++ cs := by
  simp [webText]

/-- A normalised address has a scheme of the web, and nothing else or slashes behind it. -/
theorem exists_normalizeChars (cs : List Char) : ∃ scheme, IsWeb scheme ∧
    (normalizeChars cs = scheme ++ [':'] ∨ ∃ ds, normalizeChars cs = webText scheme ds) := by
  have hsecure : secure = webText ['h', 't', 't', 'p', 's'] [] := by decide
  have hplain : plain = webText ['h', 't', 't', 'p'] [] := by decide
  have hfull : ∃ scheme ds, IsWeb scheme ∧
      (let trimmed := Text.trim cs
      if secure.isPrefixOf trimmed || plain.isPrefixOf trimmed then trimmed
      else secure ++ trimmed) = webText scheme ds := by
    simp only
    split
    · next hstart =>
        rw [Bool.or_eq_true, List.isPrefixOf_iff_prefix, List.isPrefixOf_iff_prefix] at hstart
        rcases hstart with ⟨ds, hds⟩ | ⟨ds, hds⟩
        · refine ⟨_, ds, .inr rfl, ?_⟩
          rw [← hds, hsecure]
          rfl
        · refine ⟨_, ds, .inl rfl, ?_⟩
          rw [← hds, hplain]
          rfl
    · refine ⟨_, Text.trim cs, .inr rfl, ?_⟩
      rw [hsecure]
      rfl
  obtain ⟨scheme, ds, hs, hds⟩ := hfull
  have hscheme : Text.dropEndWhile (fun c => decide (c = '/')) (scheme ++ [':', '/', '/']) =
      scheme ++ [':'] := by
    rcases hs with rfl | rfl <;> decide
  refine ⟨scheme, hs, ?_⟩
  rw [normalizeChars, hds, webText_eq, dropEndWhile_append, hscheme]
  split
  · exact .inl rfl
  · exact .inr ⟨_, (webText_eq _ _).symm⟩

theorem parse_bare {scheme : List Char} (hs : IsWeb scheme) :
    ∃ fault, Url.parse (scheme ++ [':']) = .error fault := by
  have hnone : (Url.parse (scheme ++ [':'])).toOption = none := by
    rcases hs with rfl | rfl <;> decide
  cases h : Url.parse (scheme ++ [':']) with
  | error fault => exact ⟨fault, rfl⟩
  | ok u =>
      rw [h] at hnone
      cases hnone

theorem exists_webText {address : String} {root : Location} (h : ofAddress address = .ok root) :
    ∃ scheme cs, IsWeb scheme ∧ root.address.toList = webText scheme cs := by
  obtain ⟨scheme, hs, hnormal | ⟨cs, hnormal⟩⟩ := exists_normalizeChars address.toList
  · obtain ⟨fault, hfault⟩ := parse_bare hs
    simp only [ofAddress, normalize, String.toList_ofList, hnormal, hfault] at h
    cases h
  · refine ⟨scheme, cs, hs, ?_⟩
    simp only [ofAddress, normalize, String.toList_ofList, hnormal] at h
    split at h
    · obtain rfl := Except.ok.inj h
      rw [String.toList_ofList]
    · cases h

theorem parse_of_ofAddress {address : String} {root : Location} (h : ofAddress address = .ok root) :
    ∃ b, Url.parse root.address.toList = .ok b := by
  simp only [ofAddress] at h
  split at h
  · next b hb =>
      obtain rfl := Except.ok.inj h
      exact ⟨b, hb⟩
  · cases h

end Addresses

section Requests

def lastName : List Char :=
  ['.', 'j', 's', 'o', 'n']

theorem suffix_eq : suffix = '/' :: lastName := by
  decide

theorem exists_names (paths : List String) : ∃ more,
    kept (paths.flatMap written ++ suffix) = '/' :: more ∧
      Url.rawSegments (Url.isSlashOf true) more [] =
        followed (paths.flatMap names) ++ [(lastName, false)] := by
  induction paths with
  | nil => exact ⟨lastName, by rw [suffix_eq]; decide, by decide⟩
  | cons path paths ih =>
      obtain ⟨more, hkept, hmore⟩ := ih
      rw [List.flatMap_cons, List.append_assoc, Url.kept_append, hkept, List.flatMap_cons]
      by_cases hstep : Text.trimBy isSlash path.toList = []
      · refine ⟨more, ?_, ?_⟩
        · simp only [written, if_pos hstep]
          rfl
        · simpa only [names, if_pos hstep, List.nil_append] using hmore
      · refine ⟨kept (Text.trimBy isSlash path.toList) ++ '/' :: more, ?_, ?_⟩
        · simp only [written, if_neg hstep]
          rfl
        · rw [Url.rawSegments_slash (by decide), hmore, ← namesOf]
          simp only [names, if_neg hstep, followed, List.map_append, List.append_assoc]

theorem head?_written (paths : List String) :
    (paths.flatMap written ++ suffix).head? = some '/' := by
  obtain ⟨more, hmore⟩ : ∃ more, paths.flatMap written ++ suffix = '/' :: more := by
    induction paths with
    | nil => exact ⟨lastName, suffix_eq⟩
    | cons path paths ih =>
        rw [List.flatMap_cons, written]
        split
        · exact ih
        · exact ⟨_, rfl⟩
  rw [hmore]
  rfl

theorem endsPlainly_suffix (cs : List Char) : EndsPlainly (cs ++ suffix) := by
  rw [suffix_eq, Url.endsPlainly_append _ (List.cons_ne_nil _ _)]
  intro c hc
  obtain rfl : c = 'n' := by simpa [lastName] using hc.symm
  decide

variable {method : Method} {accept agent : String} {body : Option (List UInt8)}

theorem takeUser_url (u : Url) :
    (Request.takeUser u).2 = u ∨ (Request.takeUser u).2 = u.withoutUser := by
  rw [Request.takeUser]
  split
  · exact .inl rfl
  · simp only
    split
    · exact .inl rfl
    · exact .inr rfl

theorem request_eq_ok {l : Location} {r : Request} (h : l.request method accept agent body = .ok r) :
    ∃ v, Url.parse (l.address.toList ++ suffix) = .ok v ∧ r.url.SharesOrigin v ∧
      r.url.path = v.path ∧ r.url.fragment = v.fragment ∧
      r.url.query = if l.query.isEmpty then v.query else some l.query.encode := by
  rw [request, requestUrl] at h
  split at h
  · cases h
  · next v hv =>
      refine ⟨v, hv, ?_⟩
      let u := if l.query.isEmpty then v else v.withQuery l.query.encode
      have hu : u.SharesOrigin v ∧ u.path = v.path ∧ u.fragment = v.fragment ∧
          u.query = if l.query.isEmpty then v.query else some l.query.encode := by
        by_cases hq : l.query.isEmpty = true
        · have hsame : u = v := if_pos hq
          rw [hsame, if_pos hq]
          exact ⟨⟨rfl, rfl, rfl⟩, rfl, rfl, rfl⟩
        · have hset : u = v.withQuery l.query.encode := if_neg hq
          rw [hset, if_neg hq, Query.encode, Url.withQuery_form]
          exact ⟨⟨rfl, rfl, rfl⟩, rfl, rfl, rfl⟩
      obtain rfl : Request.toUrl u method accept agent body = r := Except.ok.inj h
      have hurl : (Request.toUrl u method accept agent body).url = (Request.takeUser u).2 := rfl
      rw [hurl]
      rcases takeUser_url u with hsame | hsame
      · rw [hsame]
        exact hu
      · rw [hsame]
        exact hu

theorem exists_request_iff {l : Location} :
    (∃ r, l.request method accept agent body = .ok r) ↔
      ∃ v, Url.parse (l.address.toList ++ suffix) = .ok v := by
  rw [request, requestUrl]
  cases Url.parse (l.address.toList ++ suffix) with
  | error f => simp [Except.map]
  | ok v => simp [Except.map]

end Requests

section Paths

/-- The path of what is read behind a machine, where there is neither query nor fragment. -/
theorem path_urlOf {scheme rest : List Char} {a : Url.Authority}
    (h : ∀ c ∈ rest, c ≠ '?' ∧ c ≠ '#') :
    (Url.urlOf scheme a rest).path = Url.parsePath true rest := by
  rw [Url.urlOf, Url.splitTail_of_plain h]
  rfl

theorem isSlash_of_ends {c : Char} (h : Url.endsAuthority true c = true) (hask : c ≠ '?')
    (hhash : c ≠ '#') : Url.isSlashOf true c = true := by
  simpa [Url.endsAuthority, hask, hhash] using h

/-- The path of a request ends in its name, and goes on from that of the address unless the names
in between climb. -/
theorem path_extend {scheme rest low more : List Char} {a : Url.Authority}
    {names : List (List Char)} (hrest : rest.head?.all (Url.endsAuthority true) = true)
    (hlow : ∀ c ∈ low, c.toNat ≤ 0x20) (hgo : rest ≠ [] ∨ low = [])
    (hplain : ∀ c ∈ rest ++ low ++ '/' :: more, c ≠ '?' ∧ c ≠ '#')
    (hmore : Url.rawSegments (Url.isSlashOf true) more [] =
      followed names ++ [(lastName, false)]) :
    suffix <:+ (Url.urlOf scheme a (rest ++ low ++ '/' :: more)).path.render ∧
      (climbs 0 names = false → (Url.urlOf scheme a rest).path.render <+:
        (Url.urlOf scheme a (rest ++ low ++ '/' :: more)).path.render) := by
  have hrestPlain : ∀ c ∈ rest, c ≠ '?' ∧ c ≠ '#' := by
    intro c hc
    exact hplain c (by simp [hc])
  have hlast (path : List (List Char)) : Url.stepSegment path (lastName, false) = lastName :: path :=
    Url.stepSegment_on path false (by decide) (by decide)
  have hends (before : List (List Char)) : suffix <:+ renderNames (before ++ [lastName]) := by
    rw [Url.renderNames_append, suffix_eq]
    exact ⟨renderNames before, by simp [renderNames]⟩
  rw [path_urlOf hplain, path_urlOf hrestPlain]
  cases rest with
  | nil =>
      obtain rfl : low = [] := hgo.resolve_left (fun hne => hne rfl)
      have hplace : Url.parsePath true ([] ++ [] ++ '/' :: more) =
          .segments (((followed names).foldl Url.stepSegment []).reverse ++ [lastName]) := by
        have hslash : Url.isSlashOf true '/' = true := by decide
        rw [List.nil_append, List.nil_append, Url.parsePath, if_pos hslash, Url.parseSegments, hmore,
          List.foldl_append, List.foldl_cons, List.foldl_nil, hlast, List.reverse_cons]
      rw [hplace]
      exact ⟨hends _, fun _ => Url.renderNames_slash [] (by simp)⟩
  | cons c rest =>
      obtain ⟨hask, hhash⟩ := hrestPlain c (List.mem_cons_self ..)
      have hslash : Url.isSlashOf true c = true := isSlash_of_ends hrest hask hhash
      have hlowSlash : ∀ c ∈ low, c.toNat ≤ 0x20 ∧ Url.isSlashOf true c = false := by
        intro c hc
        have hends := Url.endsAuthority_of_le (hlow c hc)
        simp only [Url.endsAuthority, Bool.or_eq_false_iff] at hends
        exact ⟨hlow c hc, hends.1.1⟩
      have hstart : Url.isSlashOf true '/' = true := by decide
      obtain ⟨before, hplace, hbelow⟩ :=
        Url.parseSegments_extend hlowSlash rest hstart hmore hlast
      rw [List.cons_append, List.cons_append, Url.parsePath, Url.parsePath, if_pos hslash,
        if_pos hslash, hplace]
      exact ⟨hends before, hbelow⟩

end Paths

section Marks

variable {scheme cs front rest low : List Char} {a : Url.Authority}

theorem kept_request (h : Url.IsReadAs scheme cs a front rest low) (more : List Char) :
    kept (webText scheme cs ++ more) = front ++ (rest ++ low ++ kept more) := by
  rw [Url.kept_append, h.kept_eq, List.append_assoc]

theorem asks_iff (h : Url.IsReadAs scheme cs a front rest low) (more : List Char) :
    Asks (rest ++ low ++ kept (more ++ suffix)) ↔ Asks (webText scheme cs ++ more) := by
  have hsuffix : '?' ∉ suffix := by
    rw [suffix_eq]
    decide
  calc Asks (rest ++ low ++ kept (more ++ suffix))
      ↔ Asks (front ++ (rest ++ low ++ kept (more ++ suffix))) :=
        (Url.asks_append_left h.plain _).symm
    _ ↔ Asks (kept (webText scheme cs ++ more ++ suffix)) := by
        rw [List.append_assoc (webText scheme cs), kept_request h]
    _ ↔ Asks (webText scheme cs ++ more ++ suffix) := Url.asks_filter (by decide) (by decide) _
    _ ↔ Asks (webText scheme cs ++ more) := Url.asks_append_right hsuffix _

theorem mem_iff (h : Url.IsReadAs scheme cs a front rest low) (more : List Char) {mark : Char}
    (hmark : mark = '?' ∨ mark = '#') :
    mark ∈ rest ++ low ++ kept (more ++ suffix) ↔ mark ∈ webText scheme cs ++ more := by
  have hsuffix : mark ∉ suffix := by
    rw [suffix_eq]
    rcases hmark with rfl | rfl <;> decide
  have hfront : mark ∉ front := by
    intro hm
    obtain ⟨hask, hhash⟩ := h.plain mark hm
    exact hmark.elim hask hhash
  have hkept : Url.isDropped mark = false := by
    rcases hmark with rfl | rfl <;> decide
  calc mark ∈ rest ++ low ++ kept (more ++ suffix)
      ↔ mark ∈ front ++ (rest ++ low ++ kept (more ++ suffix)) := by
        exact ⟨List.mem_append_right front, fun hm => (List.mem_append.1 hm).resolve_left hfront⟩
    _ ↔ mark ∈ kept (webText scheme cs ++ more ++ suffix) := by
        rw [List.append_assoc (webText scheme cs), kept_request h]
    _ ↔ mark ∈ webText scheme cs ++ more ++ suffix := by
        simp [kept, hkept]
    _ ↔ mark ∈ webText scheme cs ++ more := by
        simp [hsuffix]

end Marks

section Readings

variable {scheme cs front rest low : List Char} {a : Url.Authority} {l : Location}
  {paths : List String} {method : Method} {accept agent : String} {body : Option (List UInt8)}

theorem exists_request_of_read (h : Url.IsReadAs scheme cs a front rest low)
    (hl : l.address.toList = webText scheme cs ++ paths.flatMap written) :
    (∃ r, l.request method accept agent body = .ok r) ↔ rest ≠ [] ∨ low = [] := by
  have hextend := h.extend _ (head?_written paths) (endsPlainly_suffix (paths.flatMap written))
  rw [← List.append_assoc] at hextend
  rw [exists_request_iff, hl]
  constructor
  · rintro ⟨v, hv⟩
    exact ((hextend v).1 hv).1
  · intro hgo
    exact ⟨_, (hextend _).2 ⟨hgo, rfl⟩⟩

theorem exists_bare_of_read (h : Url.IsReadAs scheme cs a front rest low) :
    (∃ u, Url.parse (webText scheme cs ++ ['/']) = .ok u) ↔ rest ≠ [] ∨ low = [] := by
  have hextend := h.extend ['/'] rfl (by simp [EndsPlainly])
  constructor
  · rintro ⟨u, hu⟩
    exact ((hextend u).1 hu).1
  · intro hgo
    exact ⟨_, (hextend _).2 ⟨hgo, rfl⟩⟩

theorem request_read {r : Request} (h : Url.IsReadAs scheme cs a front rest low)
    (hl : l.address.toList = webText scheme cs ++ paths.flatMap written)
    (hr : l.request method accept agent body = .ok r) :
    let v := Url.urlOf scheme a (rest ++ low ++ kept (paths.flatMap written ++ suffix))
    (rest ≠ [] ∨ low = []) ∧ r.url.SharesOrigin (Url.urlOf scheme a rest) ∧
      r.url.path = v.path ∧ r.url.fragment = v.fragment ∧
      r.url.query = if l.query.isEmpty then v.query else some l.query.encode := by
  obtain ⟨v, hv, horigin, hparts⟩ := request_eq_ok hr
  have hextend := h.extend _ (head?_written paths) (endsPlainly_suffix (paths.flatMap written))
  rw [← List.append_assoc] at hextend
  rw [hl] at hv
  obtain ⟨hgo, rfl⟩ := (hextend v).1 hv
  exact ⟨hgo, horigin, hparts⟩

/-- Neither query nor fragment: the path of a request, from the marks in its location. -/
theorem path_read (h : Url.IsReadAs scheme cs a front rest low) (hgo : rest ≠ [] ∨ low = [])
    (hask : '?' ∉ webText scheme cs ++ paths.flatMap written)
    (hhash : '#' ∉ webText scheme cs ++ paths.flatMap written) :
    let v := Url.urlOf scheme a (rest ++ low ++ kept (paths.flatMap written ++ suffix))
    suffix <:+ v.path.render ∧ (climbs 0 (paths.flatMap names) = false →
      (Url.urlOf scheme a rest).path.render <+: v.path.render) := by
  have hplain : ∀ c ∈ rest ++ low ++ kept (paths.flatMap written ++ suffix), c ≠ '?' ∧ c ≠ '#' := by
    intro c hc
    constructor
    · rintro rfl
      exact hask ((mem_iff h _ (.inl rfl)).1 hc)
    · rintro rfl
      exact hhash ((mem_iff h _ (.inr rfl)).1 hc)
  obtain ⟨tail, hkept, htail⟩ := exists_names paths
  rw [hkept] at hplain ⊢
  exact path_extend h.head (fun c hc => (h.low_le c hc).1) hgo hplain htail

end Readings

/-- Requests below an accepted address, for whatever paths and options. They go to the machine of
the address. Options make up the whole query, and without options there is one if a question mark
stands in the location before any hash; a hash begins a fragment. Where there is neither, the path
ends as it should, and goes on from that of the address unless the paths climb above it. -/
theorem request_target {address : String} {root : Location} (hroot : ofAddress address = .ok root) :
    ∃ b, Url.parse root.address.toList = .ok b ∧
      ∀ (paths : List String) (q : Query) (method : Method) (accept agent : String)
        (body : Option (List UInt8)),
        let l := root.below paths q
        ((∃ r, l.request method accept agent body = .ok r) ↔
          ∃ u, Url.parse (root.address.toList ++ ['/']) = .ok u) ∧
        (EndsPlainly root.address.toList → ∃ r, l.request method accept agent body = .ok r) ∧
        ∀ r, l.request method accept agent body = .ok r →
          r.url.SharesOrigin b ∧
          (q.isEmpty = false → r.url.query = some q.encode) ∧
          (q.isEmpty = true → (r.url.query = none ↔ ¬ Asks l.address.toList)) ∧
          (r.url.fragment = none ↔ '#' ∉ l.address.toList) ∧
          ('?' ∉ l.address.toList → '#' ∉ l.address.toList →
            suffix <:+ r.url.path.render ∧
            (climbs 0 (paths.flatMap names) = false → b.path.render <+: r.url.path.render)) := by
  obtain ⟨scheme, cs, hs, haddress⟩ := exists_webText hroot
  obtain ⟨b, hb⟩ := parse_of_ofAddress hroot
  rw [haddress] at hb ⊢
  obtain ⟨a, front, rest, low, hread, rfl⟩ := Url.exists_isReadAs hs hb
  refine ⟨_, hb, fun paths q method accept agent body => ?_⟩
  have hl : (root.below paths q).address.toList = webText scheme cs ++ paths.flatMap written := by
    rw [below_address, haddress]
  have hexists : (∃ r, (root.below paths q).request method accept agent body = .ok r) ↔
      rest ≠ [] ∨ low = [] := exists_request_of_read hread hl
  simp only [hl]
  refine ⟨hexists.trans (exists_bare_of_read hread).symm, ?_, ?_⟩
  · intro hends
    exact hexists.2 (.inr (hread.low_nil hends))
  · intro r hr
    obtain ⟨hgo, horigin, hpath, hfragment, hquery⟩ := request_read hread hl hr
    have hoptions : r.url.query = if q.isEmpty then (Url.urlOf scheme a _).query
        else some q.encode := hquery
    refine ⟨horigin, ?_, ?_, ?_, ?_⟩
    · intro hq
      rw [hoptions, hq]
      rfl
    · intro hq
      rw [hoptions, if_pos hq, ← asks_iff hread, ← Url.query_eq_none_iff]
      exact Option.map_eq_none_iff
    · rw [hfragment, ← mem_iff hread _ (.inr rfl), ← Url.fragment_eq_none_iff]
      exact Option.map_eq_none_iff
    · intro hask hhash
      rw [hpath]
      exact path_read hread hgo hask hhash

/-- A path with a step back in it, which does not lead above the address, on a machine with an
international name. -/
theorem request_target_below :
    let root : Location := ⟨"http://B\u00FCcher.example/base", Query.empty⟩
    ofAddress " http://B\u00FCcher.example/base/ " = .ok root ∧
      ∃ r, (root.below ["a", "b/../c"] Query.empty).request .get Request.anything "" none = .ok r ∧
        r.url.host = some (.name "xn--bcher-kva.example".toList) ∧
        r.url.query = none ∧ r.url.fragment = none ∧ "/base".toList <+: r.url.path.render ∧
          suffix <:+ r.url.path.render := by
  intro root
  have hroot : ofAddress " http://B\u00FCcher.example/base/ " = .ok root := by decide +kernel
  refine ⟨hroot, ?_⟩
  obtain ⟨b, hb, htarget⟩ := request_target hroot
  have hbase : (Url.parse root.address.toList).toOption.map (fun b => (b.host, b.path.render)) =
      some (some (.name "xn--bcher-kva.example".toList), "/base".toList) := by decide +kernel
  rw [hb] at hbase
  obtain ⟨hhost, hbase⟩ := Prod.mk.inj (Option.some.inj hbase)
  obtain ⟨-, hexists, hall⟩ :=
    htarget ["a", "b/../c"] Query.empty .get Request.anything "" none
  have hlast : root.address.toList.getLast? = some 'e' := by decide +kernel
  obtain ⟨r, hr⟩ := hexists (by rw [EndsPlainly, hlast]; simp)
  obtain ⟨⟨-, hmachine, -⟩, -, hquery, hfragment, hpath⟩ := hall r hr
  have hask : '?' ∉ (root.below ["a", "b/../c"] Query.empty).address.toList := by decide +kernel
  have hhash : '#' ∉ (root.below ["a", "b/../c"] Query.empty).address.toList := by decide +kernel
  obtain ⟨hends, hbegins⟩ := hpath hask hhash
  refine ⟨r, hr, hmachine.trans hhost, (hquery rfl).2 (Url.not_asks_of_not_mem hask),
    hfragment.2 hhash, ?_, hends⟩
  rw [← hbase]
  exact hbegins (by decide +kernel)

/-- A question mark in a path makes what is behind it a query. -/
theorem not_request_targets :
    ¬ ∀ (address : String) (root : Location) (b : Url) (paths : List String) (q : Query)
        (r : Request),
      ofAddress address = .ok root → Url.parse root.address.toList = .ok b →
      (root.below paths q).request .get Request.anything "" none = .ok r →
      r.url.SharesOrigin b ∧ b.path.render <+: r.url.path.render ∧ suffix <:+ r.url.path.render ∧
        r.url.query = if q.isEmpty then none else some q.encode := by
  intro h
  let root : Location := ⟨"http://db.test", Query.empty⟩
  have hroot : ofAddress "http://db.test" = .ok root := by rfl
  have hasked : ((root.below ["a?b"] Query.empty).request .get Request.anything "" none).toOption.map
      (fun r => r.url.query) = some (some "b/.json".toList) := by decide +kernel
  obtain ⟨b, hb⟩ := parse_of_ofAddress hroot
  cases hr : (root.below ["a?b"] Query.empty).request .get Request.anything "" none with
  | error f => rw [hr] at hasked; cases hasked
  | ok r =>
      obtain ⟨-, -, -, hquery⟩ := h _ root b ["a?b"] Query.empty r hroot hb hr
      rw [hr] at hasked
      have hfound : r.url.query = some "b/.json".toList := Option.some.inj hasked
      rw [hquery] at hfound
      cases hfound

end Location

end LiveTree
