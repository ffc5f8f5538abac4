import LiveTree.Proofs.Text.Ascii
import LiveTree.Proofs.Text.Triples
import LiveTree.Url.Path

namespace LiveTree.Url

variable {isSlash : Char → Bool}

def namesOf (isSlash : Char → Bool) (cs : List Char) : List (List Char) :=
  (rawSegments isSlash cs []).map Prod.fst

def followed (names : List (List Char)) : List (List Char × Bool) :=
  names.map fun name => (name, true)

/-- Whether some names lead above the start of a walk that has come `depth` steps below it. -/
def climbs (depth : Nat) : List (List Char) → Bool
  | [] => false
  | name :: names =>
      let segment := Text.Percent.encode isEncodedInPath name
      if isDoubleDot segment then depth = 0 || climbs (depth - 1) names
      else if isSingleDot segment then climbs depth names
      else climbs (depth + 1) names

section Steps

variable {name : List Char} (path : List (List Char)) (isFollowed : Bool)

theorem stepSegment_back (h : isDoubleDot (Text.Percent.encode isEncodedInPath name) = true) :
    stepSegment path (name, isFollowed) = if isFollowed then path.tail else [] :: path.tail :=
  if_pos h

theorem stepSegment_stay (hback : ¬ isDoubleDot (Text.Percent.encode isEncodedInPath name) = true)
    (h : isSingleDot (Text.Percent.encode isEncodedInPath name) = true) :
    stepSegment path (name, isFollowed) = if isFollowed then path else [] :: path := by
  simp only [stepSegment, if_neg hback, if_pos h]

theorem stepSegment_on (hback : ¬ isDoubleDot (Text.Percent.encode isEncodedInPath name) = true)
    (hstay : ¬ isSingleDot (Text.Percent.encode isEncodedInPath name) = true) :
    stepSegment path (name, isFollowed) = Text.Percent.encode isEncodedInPath name :: path := by
  simp only [stepSegment, if_neg hback, if_neg hstay]

end Steps

theorem exists_walk {depth : Nat} {names : List (List Char)} (h : climbs depth names = false)
    (below : List (List Char)) (hbelow : below.length = depth) (start : List (List Char)) :
    ∃ more, (followed names).foldl stepSegment (below ++ start) = more ++ start := by
  induction names generalizing depth below with
  | nil => exact ⟨below, rfl⟩
  | cons name names ih =>
      simp only [climbs] at h
      rw [followed, List.map_cons, List.foldl_cons, ← followed]
      by_cases hback : isDoubleDot (Text.Percent.encode isEncodedInPath name) = true
      · rw [if_pos hback, Bool.or_eq_false_iff, decide_eq_false_iff_not] at h
        rw [stepSegment_back _ true hback, if_pos rfl]
        cases below with
        | nil => exact absurd hbelow.symm h.1
        | cons segment below => exact ih h.2 below (by rw [← hbelow]; rfl)
      rw [if_neg hback] at h
      by_cases hstay : isSingleDot (Text.Percent.encode isEncodedInPath name) = true
      · rw [if_pos hstay] at h
        rw [stepSegment_stay _ true hback hstay, if_pos rfl]
        exact ih h below hbelow
      · rw [if_neg hstay] at h
        rw [stepSegment_on _ true hback hstay]
        exact ih h (_ :: below) (by rw [List.length_cons, hbelow])

section Segments

theorem rawSegments_slash {c : Char} (hc : isSlash c = true) (cs ds segment : List Char) :
    rawSegments isSlash (cs ++ c :: ds) segment =
      followed ((rawSegments isSlash cs segment).map Prod.fst) ++ rawSegments isSlash ds [] := by
  induction cs generalizing segment with
  | nil => simp [rawSegments, hc, followed]
  | cons d cs ih =>
      rw [List.cons_append, rawSegments, rawSegments]
      split
      · rw [ih]
        rfl
      · rw [ih]

theorem rawSegments_plain {cs : List Char} (h : ∀ c ∈ cs, isSlash c = false) (segment : List Char) :
    rawSegments isSlash cs segment = [(segment.reverse ++ cs, false)] := by
  induction cs generalizing segment with
  | nil => simp [rawSegments]
  | cons c cs ih =>
      obtain ⟨hc, hcs⟩ := List.forall_mem_cons.1 h
      rw [rawSegments, hc, if_neg Bool.false_ne_true, ih hcs]
      simp

theorem exists_rawSegments (isSlash : Char → Bool) (cs segment : List Char) : ∃ names last,
    ∀ low, (∀ c ∈ low, isSlash c = false) →
      rawSegments isSlash (cs ++ low) segment = followed names ++ [(last ++ low, false)] := by
  induction cs generalizing segment with
  | nil => exact ⟨[], segment.reverse, fun low hlow => rawSegments_plain hlow segment⟩
  | cons c cs ih =>
      cases hc : isSlash c with
      | true =>
          obtain ⟨names, last, hrest⟩ := ih []
          refine ⟨segment.reverse :: names, last, fun low hlow => ?_⟩
          rw [List.cons_append, rawSegments, if_pos hc, hrest low hlow]
          rfl
      | false =>
          obtain ⟨names, last, hrest⟩ := ih (c :: segment)
          refine ⟨names, last, fun low hlow => ?_⟩
          rw [List.cons_append, rawSegments, hc, if_neg Bool.false_ne_true, hrest low hlow]

end Segments

section Low

def dots : List (List Char) :=
  [['.', '.'], ['.', '%', '2', 'e'], ['%', '2', 'e', '.'], ['%', '2', 'e', '%', '2', 'e'], ['.'],
    ['%', '2', 'e']]

theorem mem_dots {segment : List Char}
    (h : isDoubleDot segment = true ∨ isSingleDot segment = true) :
    segment.map Char.toLower ∈ dots := by
  have hlist : ["..", ".%2e", "%2e.", "%2e%2e"].map String.toList =
      [['.', '.'], ['.', '%', '2', 'e'], ['%', '2', 'e', '.'], ['%', '2', 'e', '%', '2', 'e']] := by
    decide
  rcases h with h | h
  · unfold isDoubleDot at h
    simp only [List.any_eq_true, decide_eq_true_eq] at h
    have hmem := List.mem_map.2 h
    rw [hlist] at hmem
    exact List.mem_append_left [['.'], ['%', '2', 'e']] hmem
  · rw [isSingleDot, Bool.or_eq_true, decide_eq_true_eq, decide_eq_true_eq] at h
    rcases h with h | h <;> simp [dots, h]

theorem last_of_mem_dots {before : List Char} {c d : Char} (h : before ++ [c, d] ∈ dots) :
    d = '.' ∨ c = '2' ∧ d = 'e' := by
  have hreverse : ∀ name ∈ dots, name.reverse.head? = some '.' ∨
      name.reverse.take 2 = ['e', '2'] := by
    decide
  have hlast := hreverse _ h
  simp only [List.reverse_append, List.reverse_cons, List.reverse_nil, List.nil_append,
    List.cons_append, List.head?_cons, Option.some.injEq, List.take_succ_cons, List.take_zero,
    List.cons.injEq, and_true] at hlast
  exact hlast.imp_right And.symm

theorem triple_of_le : ∀ n ≤ 0x20,
    (Text.Percent.upperDigit (n % 16)).toLower ≠ '.' ∧
      ¬ ((Text.Percent.upperDigit (n / 16)).toLower = '2' ∧
        (Text.Percent.upperDigit (n % 16)).toLower = 'e') := by
  decide

theorem isEncodedInPath_of_le {c : Char} (h : c.toNat ≤ 0x20) : isEncodedInPath c = true := by
  rcases Nat.lt_or_eq_of_le h with h | h
  · simp [isEncodedInPath, isEncodedInFragment, isEncodedAlways, isControl, h]
  · obtain rfl : c = ' ' := Char.toNat_inj.1 h
    decide

theorem not_dots_of_le (name : List Char) {low : List Char} (hne : low ≠ []) (hlow : ∀ c ∈ low, c.toNat ≤ 0x20) :
    isDoubleDot (Text.Percent.encode isEncodedInPath (name ++ low)) = false ∧
      isSingleDot (Text.Percent.encode isEncodedInPath (name ++ low)) = false := by
  obtain ⟨init, c, rfl⟩ : ∃ init c, low = init ++ [c] :=
    ⟨_, _, (List.dropLast_concat_getLast hne).symm⟩
  have hc : c.toNat ≤ 0x20 := hlow c (by simp)
  have hbyte : (UInt8.ofNat c.toNat).toNat = c.toNat :=
    UInt8.toNat_ofNat_of_lt' (Nat.lt_of_le_of_lt hc (by decide))
  have hencode : Text.Percent.encode isEncodedInPath (name ++ (init ++ [c])) =
      Text.Percent.encode isEncodedInPath (name ++ init) ++ ['%'] ++
        [Text.Percent.upperDigit (c.toNat / 16), Text.Percent.upperDigit (c.toNat % 16)] := by
    rw [← List.append_assoc, Text.Percent.encode_append, Text.Percent.encode, Text.Percent.encode,
      List.flatMap_singleton, if_pos (isEncodedInPath_of_le hc),
      Text.Utf8.utf8EncodeChar_ascii (Nat.lt_of_le_of_lt hc (by decide)), List.flatMap_singleton,
      Text.Percent.triple, hbyte, List.append_assoc]
    rfl
  rw [hencode, ← Bool.not_eq_true, ← Bool.not_eq_true, ← not_or]
  intro h
  have hmem := mem_dots h
  rw [List.map_append] at hmem
  obtain ⟨hdot, hpair⟩ := triple_of_le _ hc
  exact (last_of_mem_dots hmem).elim hdot hpair

end Low

section Texts

def renderNames (names : List (List Char)) : List Char :=
  names.flatMap ('/' :: ·)

theorem renderNames_append (names more : List (List Char)) :
    renderNames (names ++ more) = renderNames names ++ renderNames more :=
  List.flatMap_append

theorem renderNames_slash (names : List (List Char)) {more : List (List Char)} (h : more ≠ []) :
    renderNames names ++ ['/'] <+: renderNames (names ++ more) := by
  rw [renderNames_append]
  cases more with
  | nil => exact absurd rfl h
  | cons name more =>
      exact (List.prefix_append_right_inj _).2 ⟨name ++ renderNames more, rfl⟩

theorem renderNames_concat_nil (names : List (List Char)) :
    renderNames (names ++ [[]]) = renderNames names ++ ['/'] := by
  rw [renderNames_append]
  rfl

theorem renderNames_step {name low : List Char} (hlow : ∀ c ∈ low, c.toNat ≤ 0x20)
    (path : List (List Char)) {more : List (List Char)} (hmore : more ≠ []) :
    renderNames (stepSegment path (name, false)).reverse <+:
      renderNames ((stepSegment path (name ++ low, true)).reverse ++ more) := by
  have hordinary (hne : low ≠ []) : stepSegment path (name ++ low, true) =
      Text.Percent.encode isEncodedInPath (name ++ low) :: path := by
    obtain ⟨hback, hstay⟩ := not_dots_of_le name hne hlow
    exact stepSegment_on path true (by rw [hback]; decide) (by rw [hstay]; decide)
  by_cases hback : isDoubleDot (Text.Percent.encode isEncodedInPath name) = true
  · rw [stepSegment_back path false hback, if_neg Bool.false_ne_true, List.reverse_cons,
      renderNames_concat_nil]
    by_cases hnil : low = []
    · rw [hnil, List.append_nil, stepSegment_back path true hback, if_pos rfl]
      exact renderNames_slash _ hmore
    · rw [hordinary hnil]
      cases path with
      | nil => exact renderNames_slash [] (by simp)
      | cons segment path =>
          simp only [List.reverse_cons, List.append_assoc, List.tail_cons]
          exact renderNames_slash _ (by simp)
  by_cases hstay : isSingleDot (Text.Percent.encode isEncodedInPath name) = true
  · rw [stepSegment_stay path false hback hstay, if_neg Bool.false_ne_true, List.reverse_cons,
      renderNames_concat_nil]
    by_cases hnil : low = []
    · rw [hnil, List.append_nil, stepSegment_stay path true hback hstay, if_pos rfl]
      exact renderNames_slash _ hmore
    · rw [hordinary hnil, List.reverse_cons, List.append_assoc]
      exact renderNames_slash _ (by simp)
  · have hright : stepSegment path (name ++ low, true) =
        Text.Percent.encode isEncodedInPath (name ++ low) :: path := by
      by_cases hnil : low = []
      · rw [hnil, List.append_nil]
        exact stepSegment_on path true hback hstay
      · exact hordinary hnil
    rw [stepSegment_on path false hback hstay, hright, List.reverse_cons, List.reverse_cons,
      List.append_assoc, renderNames_append, renderNames_append, Text.Percent.encode_append]
    refine (List.prefix_append_right_inj _).2
      ⟨Text.Percent.encode isEncodedInPath low ++ renderNames more, ?_⟩
    simp [renderNames]

end Texts

section Walks

variable {last : List Char}

/-- A path that goes on behind another one: its place ends in the last name, and lies below that of
the other one unless the names between them climb. -/
theorem parseSegments_extend {low : List Char}
    (hlow : ∀ c ∈ low, c.toNat ≤ 0x20 ∧ isSlash c = false) (cs : List Char) {slash : Char}
    (hslash : isSlash slash = true) {more : List Char} {names : List (List Char)}
    (hmore : rawSegments isSlash more [] = followed names ++ [(last, false)])
    (hlast : ∀ path, stepSegment path (last, false) = last :: path) : ∃ before,
    parseSegments isSlash (cs ++ low ++ slash :: more) = before ++ [last] ∧
      (climbs 0 names = false →
        renderNames (parseSegments isSlash cs) <+: renderNames (before ++ [last])) := by
  obtain ⟨start, name, hcs⟩ := exists_rawSegments isSlash cs []
  have hbase := hcs [] (List.forall_mem_nil _)
  have hlong := hcs low fun c hc => (hlow c hc).2
  rw [List.append_nil, List.append_nil] at hbase
  let path := (followed start).foldl stepSegment []
  let place := (followed names).foldl stepSegment (stepSegment path (name ++ low, true))
  have hplace : parseSegments isSlash (cs ++ low ++ slash :: more) = place.reverse ++ [last] := by
    rw [parseSegments, rawSegments_slash hslash, hlong, hmore, List.foldl_append, List.foldl_append,
      List.foldl_cons, List.foldl_nil, hlast, List.reverse_cons]
    simp [followed, place, path, Function.comp_def]
  refine ⟨place.reverse, hplace, fun hclimbs => ?_⟩
  obtain ⟨below, hbelow⟩ := exists_walk hclimbs [] rfl (stepSegment path (name ++ low, true))
  rw [List.nil_append] at hbelow
  have hsegments : parseSegments isSlash cs = (stepSegment path (name, false)).reverse := by
    rw [parseSegments, hbase, List.foldl_append]
    rfl
  have hfound : place = below ++ stepSegment path (name ++ low, true) := hbelow
  rw [hsegments, hfound, List.reverse_append, List.append_assoc]
  exact renderNames_step (fun c hc => (hlow c hc).1) path (by simp)

end Walks

end LiveTree.Url
