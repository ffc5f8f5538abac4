import LiveTree.Proofs.Url.Machine
import LiveTree.Text.Blank

namespace LiveTree.Url

def kept (cs : List Char) : List Char :=
  cs.filter fun c => !isDropped c

theorem kept_append (cs ds : List Char) : kept (cs ++ ds) = kept cs ++ kept ds :=
  List.filter_append ..

def urlOf (scheme : List Char) (a : Authority) (rest : List Char) : Url :=
  assemble true scheme a (parsePath true (splitTail rest).path) (splitTail rest)

section Machines

variable {scheme text rest : List Char} {a : Authority}

structure IsMachine (scheme text : List Char) (a : Authority) : Prop where
  ends : ∀ c ∈ text, endsAuthority true c = false
  read : ∀ followed, parseAuthority true scheme text followed = .ok a

theorem IsMachine.not_mem (h : IsMachine scheme text a) : '\\' ∉ text := by
  intro hm
  cases h.ends _ hm

theorem IsMachine.behind (h : IsMachine scheme text a) : a.behind = [] :=
  (parseAuthority_ok h.not_mem (h.read false)).1

theorem takeWhile_ends (htext : ∀ c ∈ text, endsAuthority true c = false)
    (hrest : rest.head?.all (endsAuthority true) = true) :
    (text ++ rest).takeWhile (fun c => !endsAuthority true c) = text := by
  have hpass : ∀ c ∈ text, (!endsAuthority true c) = true := by
    intro c hc
    rw [htext c hc]
    rfl
  have hstop : rest.takeWhile (fun c => !endsAuthority true c) = [] := by
    cases rest with
    | nil => rfl
    | cons c rest =>
        have hc : endsAuthority true c = true := hrest
        rw [List.takeWhile_cons_of_neg (by simp [hc])]
  rw [List.takeWhile_append_of_pos hpass, hstop, List.append_nil]

theorem parseWithAuthority_append (h : IsMachine scheme text a)
    (hrest : rest.head?.all (endsAuthority true) = true) :
    parseWithAuthority true scheme (text ++ rest) = .ok (urlOf scheme a rest) := by
  simp only [parseWithAuthority, takeWhile_ends h.ends hrest, List.drop_left, h.read, bind,
    Except.bind, h.behind, List.nil_append]
  rfl

theorem exists_isMachine {cs : List Char} {u : Url} (h : parseWithAuthority true scheme cs = .ok u) :
    ∃ text rest a, cs = text ++ rest ∧ IsMachine scheme text a ∧
      rest.head?.all (endsAuthority true) = true ∧ u = urlOf scheme a rest := by
  let text := cs.takeWhile fun c => !endsAuthority true c
  let rest := cs.dropWhile fun c => !endsAuthority true c
  have hsplit : cs = text ++ rest := List.takeWhile_append_dropWhile.symm
  have hends : ∀ c ∈ text, endsAuthority true c = false := by
    intro c hc
    simpa using List.all_eq_true.1 List.all_takeWhile c hc
  have hhead : rest.head?.all (endsAuthority true) = true := by
    simpa using all_head?_dropWhile (fun c => !endsAuthority true c) cs
  have hslash : '\\' ∉ text := fun hm => nomatch hends _ hm
  cases ha : parseAuthority true scheme text (!rest.isEmpty) with
  | error fault =>
      simp only [parseWithAuthority, drop_length_takeWhile] at h
      rw [ha] at h
      cases h
  | ok a =>
      have hm : IsMachine scheme text a := ⟨hends, (parseAuthority_ok hslash ha).2.2.2⟩
      refine ⟨text, rest, a, hsplit, hm, hhead, ?_⟩
      rw [hsplit, parseWithAuthority_append hm hhead] at h
      exact (Except.ok.inj h).symm

theorem endsAuthority_of_le {c : Char} (h : c.toNat ≤ 0x20) : endsAuthority true c = false := by
  have hne (d : Char) (hd : 0x20 < d.toNat) : c ≠ d := by
    rintro rfl
    omega
  simp [endsAuthority, isSlashOf, hne '/' (by decide), hne '\\' (by decide), hne '?' (by decide),
    hne '#' (by decide)]

/-- More text behind an authority, which may begin with what was dropped from its end. -/
theorem parseWithAuthority_extend (h : IsMachine scheme text a)
    (hrest : rest.head?.all (endsAuthority true) = true) {low more : List Char}
    (hlow : ∀ c ∈ low, c.toNat ≤ 0x20) (hmore : more.head? = some '/') (v : Url) :
    parseWithAuthority true scheme (text ++ rest ++ low ++ more) = .ok v ↔
      (rest ≠ [] ∨ low = []) ∧ v = urlOf scheme a (rest ++ low ++ more) := by
  have hfits (hgo : rest ≠ [] ∨ low = []) :
      parseWithAuthority true scheme (text ++ rest ++ low ++ more) =
        .ok (urlOf scheme a (rest ++ low ++ more)) := by
    have hhead : (rest ++ low ++ more).head?.all (endsAuthority true) = true := by
      cases rest with
      | cons c rest => exact hrest
      | nil =>
          obtain rfl : low = [] := hgo.resolve_left (fun hne => hne rfl)
          rw [List.append_nil, List.nil_append, hmore]
          rfl
    rw [List.append_assoc text, List.append_assoc text, parseWithAuthority_append h hhead]
  constructor
  · intro hv
    have hgo : rest ≠ [] ∨ low = [] := by
      refine Decidable.byContradiction fun hno => ?_
      rw [not_or, Decidable.not_not] at hno
      obtain ⟨rfl, hne⟩ := hno
      -- the text up to the slash would have to be an authority
      obtain ⟨text', rest', a', hsplit, hm, hhead, -⟩ := exists_isMachine hv
      have hends : ∀ c ∈ text ++ low, endsAuthority true c = false :=
        List.forall_mem_append.2 ⟨h.ends, fun c hc => endsAuthority_of_le (hlow c hc)⟩
      have hslash : more.head?.all (endsAuthority true) = true := by
        rw [hmore]
        rfl
      obtain rfl : text' = text ++ low := by
        rw [← takeWhile_ends hm.ends hhead, ← takeWhile_ends hends hslash, ← hsplit,
          List.append_nil]
      have hplain := (parseAuthority_ok hm.not_mem (hm.read false)).2.2.1
      rw [endsPlainly_append _ hne] at hplain
      have hlast := hplain (low.getLast hne) (List.getLast?_eq_some_getLast hne)
      have := hlow _ (List.getLast_mem hne)
      omega
    refine ⟨hgo, ?_⟩
    rw [hfits hgo] at hv
    exact (Except.ok.inj hv).symm
  · rintro ⟨hgo, rfl⟩
    exact hfits hgo

end Machines

section Web

def IsWeb (scheme : List Char) : Prop :=
  scheme = ['h', 't', 't', 'p'] ∨ scheme = ['h', 't', 't', 'p', 's']

def webText (scheme cs : List Char) : List Char :=
  scheme ++ ':' :: '/' :: '/' :: cs

variable {scheme : List Char}

theorem lt_of_mem_webText (hs : IsWeb scheme) : ∀ c ∈ webText scheme [], 0x20 < c.toNat := by
  rcases hs with rfl | rfl <;> simp [webText]

theorem kept_eq_self {cs : List Char} (h : ∀ c ∈ cs, 0x20 < c.toNat) : kept cs = cs := by
  refine List.filter_eq_self.2 fun c hc => ?_
  have hc := h c hc
  have hdrop (d : Char) (hd : d.toNat ≤ 0x20) : c ≠ d := by
    rintro rfl
    omega
  simp [isDropped, hdrop '\t' (by decide), hdrop '\n' (by decide), hdrop '\r' (by decide)]

theorem cleaned_append {before : List Char} (hne : before ≠ [])
    (hbefore : ∀ c ∈ before, 0x20 < c.toNat) (cs : List Char) :
    cleaned (before ++ cs) = before ++ kept (Text.dropEndWhile isOuterBlank cs) := by
  have hblank : ∀ c ∈ before, isOuterBlank c = false := by
    intro c hc
    have := hbefore c hc
    simp only [isOuterBlank, decide_eq_false_iff_not]
    omega
  have hstart : (before ++ cs).dropWhile isOuterBlank = before ++ cs := by
    cases before with
    | nil => exact absurd rfl hne
    | cons c before =>
        rw [List.cons_append, List.dropWhile_cons_of_neg (by simp [hblank c])]
  have hend : before.reverse.dropWhile isOuterBlank = before.reverse := by
    cases hr : before.reverse with
    | nil => rfl
    | cons c reversed =>
        have hc : c ∈ before := List.mem_reverse.1 (by simp [hr])
        rw [List.dropWhile_cons_of_neg (by simp [hblank c hc])]
  have htrim : ((before ++ cs).reverse.dropWhile isOuterBlank).reverse =
      before ++ Text.dropEndWhile isOuterBlank cs := by
    rw [List.reverse_append, List.dropWhile_append, Text.dropEndWhile]
    split
    · next hnil => simp [hend, List.isEmpty_iff.1 hnil]
    · simp
  rw [cleaned, hstart, htrim, ← kept, kept_append, kept_eq_self hbefore]

theorem parse_webText (hs : IsWeb scheme) (cs : List Char) :
    parse (webText scheme cs) = parseWithAuthority true scheme
      ((kept (Text.dropEndWhile isOuterBlank cs)).dropWhile (isSlashOf true)) := by
  have hclean := cleaned_append (by simp [webText]) (lt_of_mem_webText hs) cs
  have hsplit : webText scheme [] ++ cs = webText scheme cs := by simp [webText]
  rw [hsplit] at hclean
  rw [parse, hclean]
  generalize kept (Text.dropEndWhile isOuterBlank cs) = text
  rcases hs with rfl | rfl
  · have hscheme : splitScheme (webText ['h', 't', 't', 'p'] [] ++ text) =
        some (['h', 't', 't', 'p'], '/' :: '/' :: text) := by rfl
    have hkind : kindOf ['h', 't', 't', 'p'] = .special := by decide
    rw [hscheme]
    simp only [hkind]
    rfl
  · have hscheme : splitScheme (webText ['h', 't', 't', 'p', 's'] [] ++ text) =
        some (['h', 't', 't', 'p', 's'], '/' :: '/' :: text) := by rfl
    have hkind : kindOf ['h', 't', 't', 'p', 's'] = .special := by decide
    rw [hscheme]
    simp only [hkind]
    rfl

/-- How a text on the web that is a URL is made up: up to the end of the authority, the rest, and
what is kept of the blanks and control characters at its end. -/
structure IsReadAs (scheme cs : List Char) (a : Authority) (front rest low : List Char) :
    Prop where
  kept_eq : kept (webText scheme cs) = front ++ (rest ++ low)
  plain : ∀ c ∈ front, c ≠ '?' ∧ c ≠ '#'
  head : rest.head?.all (endsAuthority true) = true
  low_le : ∀ c ∈ low, c.toNat ≤ 0x20 ∧ isDropped c = false
  low_nil : EndsPlainly (webText scheme cs) → low = []
  extend : ∀ more, more.head? = some '/' → EndsPlainly more → ∀ v,
    parse (webText scheme cs ++ more) = .ok v ↔
      (rest ≠ [] ∨ low = []) ∧ v = urlOf scheme a (rest ++ low ++ kept more)

/-- What stands up to the end of a machine: the scheme, slashes of either kind, and the text that
the machine is read from. -/
structure IsFront (scheme text front : List Char) : Prop where
  slashed : ∃ slashes, (∀ c ∈ slashes, isSlashOf true c = true) ∧
    webText scheme [] ++ slashes ++ text = front
  ne : text ≠ []
  ends : ∀ c ∈ text, endsAuthority true c = false
  plain : EndsPlainly text

theorem IsFront.unmarked {text front : List Char} (hs : IsWeb scheme)
    (h : IsFront scheme text front) : ∀ c ∈ front, c ≠ '?' ∧ c ≠ '#' := by
  obtain ⟨slashes, hslashes, rfl⟩ := h.slashed
  have hscheme : ∀ c ∈ webText scheme [], c ≠ '?' ∧ c ≠ '#' := by
    rcases hs with rfl | rfl <;> simp [webText]
  have hbefore : ∀ c ∈ slashes, c ≠ '?' ∧ c ≠ '#' := by
    intro c hc
    have hslash := hslashes c hc
    constructor <;> (rintro rfl; cases hslash)
  have htext : ∀ c ∈ text, c ≠ '?' ∧ c ≠ '#' := by
    intro c hc
    have hends := h.ends c hc
    constructor <;> (rintro rfl; cases hends)
  exact List.forall_mem_append.2 ⟨List.forall_mem_append.2 ⟨hscheme, hbefore⟩, htext⟩

theorem le_of_isOuterBlank {c : Char} (h : isOuterBlank c = true) : c.toNat ≤ 0x20 := by
  simpa [isOuterBlank] using h

theorem eq_nil_of_endsPlainly {before dropped : List Char}
    (hdropped : ∀ c ∈ dropped, isOuterBlank c = true) (h : EndsPlainly (before ++ dropped)) :
    dropped = [] := by
  refine Decidable.byContradiction fun hne => ?_
  rw [endsPlainly_append before hne] at h
  have hhigh := h _ (List.getLast?_eq_some_getLast hne)
  have hlow := le_of_isOuterBlank (hdropped _ (List.getLast_mem hne))
  omega

/-- What an address with more behind it is read as: what was dropped from its end is now in the
middle. -/
theorem parse_webText_append (hs : IsWeb scheme) {start dropped text rest more : List Char}
    {a : Authority} (hdropped : ∀ c ∈ dropped, isOuterBlank c = true)
    (hsplit : (kept start).dropWhile (isSlashOf true) = text ++ rest) (hne : text ≠ [])
    (hm : IsMachine scheme text a) (hrest : rest.head?.all (endsAuthority true) = true)
    (hslash : more.head? = some '/') (hplain : EndsPlainly more) (v : Url) :
    parse (webText scheme (start ++ dropped ++ more)) = .ok v ↔
      (rest ≠ [] ∨ kept dropped = []) ∧
        v = urlOf scheme a (rest ++ kept dropped ++ kept more) := by
  have hmore : more ≠ [] := by
    rintro rfl
    cases hslash
  have htrim : Text.dropEndWhile isOuterBlank (start ++ dropped ++ more) =
      start ++ dropped ++ more := by
    refine Text.dropEndWhile_eq_self fun c hc => ?_
    have := (endsPlainly_append (start ++ dropped) hmore).2 hplain c hc
    simp only [isOuterBlank, decide_eq_true_eq]
    omega
  have hdrop : (kept (start ++ dropped ++ more)).dropWhile (isSlashOf true) =
      text ++ rest ++ kept dropped ++ kept more := by
    rw [kept_append, kept_append, List.append_assoc, List.dropWhile_append, hsplit,
      if_neg (by simp [hne])]
    simp only [List.append_assoc]
  have hhead : (kept more).head? = some '/' := by
    cases more with
    | nil => cases hslash
    | cons c more =>
        obtain rfl : c = '/' := by simpa using hslash
        rfl
  have hlow : ∀ c ∈ kept dropped, c.toNat ≤ 0x20 := fun c hc =>
    le_of_isOuterBlank (hdropped c (List.mem_filter.1 hc).1)
  rw [parse_webText hs, htrim, hdrop]
  exact parseWithAuthority_extend hm hrest hlow hhead v

theorem exists_isFront (hs : IsWeb scheme) {cs : List Char} {u : Url}
    (h : parse (webText scheme cs) = .ok u) : ∃ a text front rest low,
      IsFront scheme text front ∧ IsReadAs scheme cs a front rest low ∧ u = urlOf scheme a rest := by
  rw [parse_webText hs] at h
  obtain ⟨text, rest, a, hsplit, hm, hrest, rfl⟩ := exists_isMachine h
  obtain ⟨dropped, hcs, hdropped⟩ := Text.exists_append_dropEndWhile isOuterBlank cs
  let start := Text.dropEndWhile isOuterBlank cs
  let slashes := (kept start).takeWhile (isSlashOf true)
  have hstart : kept start = slashes ++ (text ++ rest) := by
    rw [← hsplit]
    exact List.takeWhile_append_dropWhile.symm
  have hweb : webText scheme cs = webText scheme [] ++ (start ++ dropped) := by
    rw [← hcs]
    simp [webText]
  obtain ⟨-, hfull, hplain, -⟩ := parseAuthority_ok hm.not_mem (hm.read false)
  have hfront : IsFront scheme text (webText scheme [] ++ slashes ++ text) :=
    ⟨⟨slashes, List.all_eq_true.1 List.all_takeWhile, rfl⟩, hfull, hm.ends, hplain⟩
  refine ⟨a, text, webText scheme [] ++ slashes ++ text, rest, kept dropped, hfront, ?_, rfl⟩
  refine ⟨?_, ?_, hrest, ?_, ?_, ?_⟩
  · rw [hweb, kept_append, kept_append, kept_eq_self (lt_of_mem_webText hs), hstart]
    simp only [List.append_assoc]
  · exact hfront.unmarked hs
  · intro c hc
    obtain ⟨hc, hkept⟩ := List.mem_filter.1 hc
    exact ⟨le_of_isOuterBlank (hdropped c hc), by simpa using hkept⟩
  · intro hends
    rw [hweb, ← List.append_assoc] at hends
    rw [eq_nil_of_endsPlainly hdropped hends]
    rfl
  · intro more hslash hmore v
    have hjoin : webText scheme cs ++ more = webText scheme (start ++ dropped ++ more) := by
      rw [← hcs]
      simp [webText]
    rw [hjoin]
    exact parse_webText_append hs hdropped hsplit hfull hm hrest hslash hmore v

theorem exists_isReadAs (hs : IsWeb scheme) {cs : List Char} {u : Url}
    (h : parse (webText scheme cs) = .ok u) :
    ∃ a front rest low, IsReadAs scheme cs a front rest low ∧ u = urlOf scheme a rest := by
  obtain ⟨a, text, front, rest, low, -, hread⟩ := exists_isFront hs h
  exact ⟨a, front, rest, low, hread⟩

end Web

end LiveTree.Url
