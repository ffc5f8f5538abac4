import Mathlib.Data.List.TakeWhile
import LiveTree.Proofs.Location.Target

namespace LiveTree

namespace Text

def EndsBlank (cs : List Char) : Prop :=
  cs.getLast?.any isBlank = true

instance (cs : List Char) : Decidable (EndsBlank cs) :=
  inferInstanceAs (Decidable (_ = true))

variable {cs ds : List Char}

theorem not_isBlank_of_getLast? (h : ¬ EndsBlank cs) {c : Char} (hc : cs.getLast? = some c) :
    ¬ isBlank c = true :=
  fun hblank => h (by rw [EndsBlank, hc]; exact hblank)

theorem dropEndWhile_prefix (p : Char → Bool) (cs : List Char) : dropEndWhile p cs <+: cs := by
  obtain ⟨ds, hds, -⟩ := exists_append_dropEndWhile p cs
  exact ⟨ds, hds.symm⟩

theorem getLast?_dropEndWhile {p : Char → Bool} {c : Char}
    (h : (dropEndWhile p cs).getLast? = some c) : p c = false := by
  rw [dropEndWhile, List.getLast?_reverse] at h
  have hstop := List.head?_dropWhile_not p cs.reverse
  rw [h] at hstop
  exact hstop

theorem trim_append_append {before after : List Char} (hbefore : ∀ c ∈ before, isBlank c = true)
    (hafter : ∀ c ∈ after, isBlank c = true) : trim (before ++ cs ++ after) = trim cs := by
  rw [trim, trimBy, trim, trimBy, List.append_assoc, List.dropWhile_append_of_pos hbefore,
    List.dropWhile_append]
  split
  · next hnil =>
      rw [List.dropWhile_eq_nil_iff.2 hafter, List.isEmpty_iff.1 hnil]
  · exact dropEndWhile_append_of_all hafter

theorem trim_eq_dropWhile (h : ¬ EndsBlank cs) : trim cs = cs.dropWhile isBlank := by
  refine dropEndWhile_eq_self fun c hc => not_isBlank_of_getLast? h ?_
  rw [← List.takeWhile_append_dropWhile (p := isBlank) (l := cs), List.getLast?_append, hc]
  rfl

/-- What is written behind a text without a blank at its end stays when it is trimmed. -/
theorem trim_append (hcs : ¬ EndsBlank cs) (hds : ∀ c ∈ ds, ¬ isBlank c = true) :
    trim (cs ++ ds) = trim cs ++ ds := by
  have hends : ¬ EndsBlank (cs ++ ds) := by
    intro h
    obtain ⟨c, hc, hblank⟩ := (Option.any_eq_true _ _).1 h
    rw [List.getLast?_append, Option.or_eq_some_iff] at hc
    obtain hc | ⟨-, hc⟩ := hc
    · exact hds c (List.mem_of_getLast? hc) hblank
    · exact not_isBlank_of_getLast? hcs hc hblank
  rw [trim_eq_dropWhile hends, trim_eq_dropWhile hcs, List.dropWhile_append]
  split
  · next hnil =>
      rw [List.isEmpty_iff.1 hnil, List.nil_append, List.dropWhile_eq_self_iff]
      exact fun hlength => hds _ (List.getElem_mem hlength)
  · rfl

theorem trim_eq_self {c : Char} (hc : cs.head? = some c) (hblank : ¬ isBlank c = true)
    (h : ¬ EndsBlank cs) : trim cs = cs := by
  obtain ⟨ds, rfl⟩ := List.head?_eq_some_iff.1 hc
  rw [trim_eq_dropWhile h, List.dropWhile_cons_of_neg hblank]

end Text

namespace Location

open Text (EndsBlank)
open Url (IsWeb webText)

variable {cs : List Char} {scheme : List Char}

def slashes (n : Nat) : List Char :=
  List.replicate n '/'

def IsSchemed (cs : List Char) : Prop :=
  secure <+: cs ∨ plain <+: cs

instance (cs : List Char) : Decidable (IsSchemed cs) :=
  inferInstanceAs (Decidable (_ ∨ _))

/-- With so many slashes behind it a text begins with a scheme, and without them it does not. -/
def CompletesScheme (cs : List Char) (n : Nat) : Prop :=
  ¬ IsSchemed cs ∧ IsSchemed (cs ++ slashes n)

instance (cs : List Char) (n : Nat) : Decidable (CompletesScheme cs n) :=
  inferInstanceAs (Decidable (_ ∧ _))

def schemed (cs : List Char) : List Char :=
  if IsSchemed cs then cs else secure ++ cs

theorem normalizeChars_eq (cs : List Char) :
    normalizeChars cs = Text.dropEndWhile isSlash (schemed (Text.trim cs)) := by
  have hstart (ds : List Char) : (secure.isPrefixOf ds || plain.isPrefixOf ds) = true ↔
      IsSchemed ds := by
    rw [Bool.or_eq_true, List.isPrefixOf_iff_prefix, List.isPrefixOf_iff_prefix, IsSchemed]
  rw [normalizeChars, schemed]
  simp only [hstart]
  rfl

theorem not_isBlank_of_mem_slashes {n : Nat} : ∀ c ∈ slashes n, ¬ Text.isBlank c = true := by
  intro c hc
  rw [List.eq_of_mem_replicate hc]
  decide

theorem isSlash_of_mem_slashes {n : Nat} : ∀ c ∈ slashes n, isSlash c = true := by
  intro c hc
  rw [List.eq_of_mem_replicate hc]
  rfl

theorem secure_eq : secure = webText ['h', 't', 't', 'p', 's'] [] := by decide

theorem plain_eq : plain = webText ['h', 't', 't', 'p'] [] := by decide

theorem IsSchemed.append (h : IsSchemed cs) (ds : List Char) : IsSchemed (cs ++ ds) :=
  h.imp (·.trans (List.prefix_append _ _)) (·.trans (List.prefix_append _ _))

theorem isSchemed_webText (hs : IsWeb scheme) (ds : List Char) : IsSchemed (webText scheme ds) := by
  rcases hs with rfl | rfl
  · exact .inr ⟨ds, by rw [plain_eq]; rfl⟩
  · exact .inl ⟨ds, by rw [secure_eq]; rfl⟩

theorem schemed_append {n : Nat} (h : ¬ CompletesScheme cs n) :
    schemed (cs ++ slashes n) = schemed cs ++ slashes n := by
  by_cases hcs : IsSchemed cs
  · rw [schemed, if_pos (hcs.append _), schemed, if_pos hcs]
  · rw [schemed, if_neg fun hlong => h ⟨hcs, hlong⟩, schemed, if_neg hcs, List.append_assoc]

/-- Slashes behind an address without a blank at its end are dropped, unless they belong to a
scheme. -/
theorem normalizeChars_append {n : Nat} (hends : ¬ EndsBlank cs)
    (h : ¬ CompletesScheme (Text.trim cs) n) :
    normalizeChars (cs ++ slashes n) = normalizeChars cs := by
  rw [normalizeChars_eq, Text.trim_append hends not_isBlank_of_mem_slashes, schemed_append h,
    Text.dropEndWhile_append_of_all isSlash_of_mem_slashes, normalizeChars_eq]

/-- Slashes that complete a scheme are dropped with the others, and nothing but its name is left. -/
theorem exists_dropEndWhile_of_completes {n : Nat} (h : CompletesScheme cs n) :
    ∃ scheme, IsWeb scheme ∧
      Text.dropEndWhile isSlash (cs ++ slashes n) = scheme ++ [':'] := by
  obtain ⟨hcs, hlong⟩ := h
  have hbare {scheme : List Char} (hs : IsWeb scheme)
      (hlong : webText scheme [] <+: cs ++ slashes n) (hshort : ¬ webText scheme [] <+: cs) :
      Text.dropEndWhile isSlash (cs ++ slashes n) = scheme ++ [':'] := by
    obtain ⟨rest, hrest⟩ := hlong
    have hshorter : cs <+: cs ++ slashes n := List.prefix_append _ _
    have hnested := List.prefix_or_prefix_of_prefix hshorter ⟨rest, hrest⟩
    obtain ⟨missing, hmissing⟩ := hnested.resolve_right hshort
    have hsplit : slashes n = missing ++ rest := by
      rw [← hmissing, List.append_assoc] at hrest
      exact (List.append_cancel_left hrest).symm
    have hslashes : ∀ c ∈ rest, isSlash c = true := fun c hc =>
      isSlash_of_mem_slashes c (hsplit ▸ List.mem_append_right _ hc)
    rw [← hrest, Text.dropEndWhile_append_of_all hslashes]
    rcases hs with rfl | rfl <;> decide
  obtain hlong | hlong := hlong
  · exact ⟨_, .inr rfl, hbare (.inr rfl) (secure_eq ▸ hlong) fun hshort =>
      hcs (.inl (secure_eq ▸ hshort))⟩
  · exact ⟨_, .inl rfl, hbare (.inl rfl) (plain_eq ▸ hlong) fun hshort =>
      hcs (.inr (plain_eq ▸ hshort))⟩

theorem refused_of_completes {n : Nat} (hends : ¬ EndsBlank cs)
    (h : CompletesScheme (Text.trim cs) n) :
    ∃ fault, ofAddress (String.ofList (cs ++ slashes n)) = .error (.invalidUrl fault) := by
  obtain ⟨scheme, hs, hbare⟩ := exists_dropEndWhile_of_completes h
  have hnormal : normalizeChars (cs ++ slashes n) = scheme ++ [':'] := by
    rw [normalizeChars_eq, Text.trim_append hends not_isBlank_of_mem_slashes, schemed,
      if_pos h.2, hbare]
  obtain ⟨fault, hfault⟩ := parse_bare hs
  refine ⟨fault, ?_⟩
  simp only [ofAddress, normalize, String.toList_ofList, hnormal, hfault]

theorem address_of_ofAddress {address : String} {root : Location}
    (h : ofAddress address = .ok root) : root.address = normalize address := by
  simp only [ofAddress] at h
  split at h
  · obtain rfl := Except.ok.inj h
    rfl
  · cases h

theorem scheme_eq_of_prefix {other : List Char} (hs : IsWeb scheme) (ho : IsWeb other)
    (hscheme : webText scheme [] <+: cs) (hother : webText other [] <+: cs) : scheme = other := by
  have hnested := List.prefix_or_prefix_of_prefix hscheme hother
  rcases hs with rfl | rfl <;> rcases ho with rfl | rfl
  · rfl
  · exact absurd hnested (by decide)
  · exact absurd hnested (by decide)
  · rfl

/-- The scheme of an accepted address is the one it is written with, or else the secure one. -/
theorem scheme_of_ofAddress {address : String} {root : Location}
    (h : ofAddress address = .ok root) :
    (plain <+: Text.trim address.toList → plain <+: root.address.toList) ∧
      (¬ plain <+: Text.trim address.toList → secure <+: root.address.toList) := by
  obtain ⟨scheme, cs, hs, haddress⟩ := exists_webText h
  have hroot : webText scheme [] <+: root.address.toList := ⟨cs, by
    rw [haddress, webText_eq, webText_eq, List.append_nil]⟩
  have hfull : root.address.toList <+: schemed (Text.trim address.toList) := by
    rw [address_of_ofAddress h, normalize, String.toList_ofList, normalizeChars_eq]
    exact Text.dropEndWhile_prefix _ _
  have hkept {other : List Char} (ho : IsWeb other)
      (hother : webText other [] <+: schemed (Text.trim address.toList)) :
      webText other [] <+: root.address.toList :=
    scheme_eq_of_prefix hs ho (hroot.trans hfull) hother ▸ hroot
  constructor
  · intro hplain
    rw [plain_eq] at hplain ⊢
    refine hkept (.inl rfl) ?_
    rwa [schemed, if_pos (.inr (plain_eq ▸ hplain))]
  · intro hplain
    rw [secure_eq]
    refine hkept (.inr rfl) ?_
    rw [← secure_eq, schemed]
    split
    · next hschemed => exact hschemed.resolve_right hplain
    · exact List.prefix_append _ _

theorem normalizeChars_of_schemed (hs : IsSchemed cs) (hends : ¬ EndsBlank cs)
    (hslash : cs.getLast? ≠ some '/') : normalizeChars cs = cs := by
  have hhead : cs.head? = some 'h' := by
    rcases hs with ⟨ds, rfl⟩ | ⟨ds, rfl⟩ <;> rfl
  rw [normalizeChars_eq, Text.trim_eq_self hhead (by decide) hends, schemed, if_pos hs]
  refine Text.dropEndWhile_eq_self fun c hc hcslash => hslash ?_
  rw [hc, of_decide_eq_true hcslash]

/-- The normal form of an accepted address has a scheme of the web, the plain one exactly if the
address is written with it, and no slash at its end. It is its own normal form if it does not end in
a blank. Blanks around the address change nothing, nor do slashes behind an address without a blank
at its end, unless they complete a scheme: then nothing is left that could be accepted. -/
theorem normalize_canonical {address : String} {root : Location}
    (h : ofAddress address = .ok root) :
    root.address = normalize address ∧
      ((plain <+: Text.trim address.toList → plain <+: root.address.toList) ∧
        (¬ plain <+: Text.trim address.toList → secure <+: root.address.toList)) ∧
      root.address.toList.getLast? ≠ some '/' ∧
      (¬ EndsBlank root.address.toList → normalize root.address = root.address) ∧
      (∀ before after : List Char, (∀ c ∈ before, Text.isBlank c = true) →
        (∀ c ∈ after, Text.isBlank c = true) →
          normalize (String.ofList (before ++ address.toList ++ after)) = root.address) ∧
      (¬ EndsBlank address.toList → ∀ n,
        (¬ CompletesScheme (Text.trim address.toList) n →
          normalize (String.ofList (address.toList ++ slashes n)) = root.address) ∧
        (CompletesScheme (Text.trim address.toList) n →
          ∃ fault, ofAddress (String.ofList (address.toList ++ slashes n)) =
            .error (.invalidUrl fault))) := by
  have hroot := address_of_ofAddress h
  have hchars : root.address.toList = normalizeChars address.toList := by
    rw [hroot, normalize, String.toList_ofList]
  have hslash : root.address.toList.getLast? ≠ some '/' := by
    intro hlast
    rw [hchars, normalizeChars_eq] at hlast
    exact absurd (Text.getLast?_dropEndWhile hlast) (by decide)
  refine ⟨hroot, scheme_of_ofAddress h, hslash, fun hends => ?_, fun before after hb ha => ?_,
    fun hends n => ⟨fun hwhole => ?_, refused_of_completes hends⟩⟩
  · obtain ⟨scheme, cs, hs, haddress⟩ := exists_webText h
    have hschemed : IsSchemed root.address.toList := haddress ▸ isSchemed_webText hs cs
    rw [normalize, normalizeChars_of_schemed hschemed hends hslash, String.ofList_toList]
  · rw [normalize, String.toList_ofList, normalizeChars_eq, Text.trim_append_append hb ha,
      ← normalizeChars_eq, hroot, normalize]
  · rw [normalize, String.toList_ofList, normalizeChars_append hends hwhole, hroot, normalize]

/-- An address without a scheme, with blanks within and around it, and a machine that is called as a
scheme is. -/
theorem normalize_canonical_named :
    (∃ root, ofAddress "\tdb.test/a b/" = .ok root ∧ root.address = "https://db.test/a b" ∧
      normalize root.address = root.address ∧
      normalize " \tdb.test/a b/\u3000" = root.address ∧
      normalize "\tdb.test/a b////" = root.address) ∧
    ∃ root fault, ofAddress "http:" = .ok root ∧ root.address = "https://http:" ∧
      normalize "http:/" = root.address ∧ ofAddress "http://" = .error (.invalidUrl fault) := by
  have hroot : ofAddress "\tdb.test/a b/" = .ok ⟨"https://db.test/a b", Query.empty⟩ := rfl
  have hnamed : ofAddress "http:" = .ok ⟨"https://http:", Query.empty⟩ := rfl
  obtain ⟨-, -, -, hself, haround, hbehind⟩ := normalize_canonical hroot
  obtain ⟨-, -, -, -, -, hslashes⟩ := normalize_canonical hnamed
  obtain ⟨fault, hfault⟩ := (hslashes (by decide) 2).2 (by decide)
  refine ⟨⟨_, hroot, rfl, hself (by decide), ?_, ?_⟩, _, fault, hnamed, rfl, ?_, hfault⟩
  · exact haround [' '] ['\u3000'] (List.all_eq_true.1 rfl) (List.all_eq_true.1 rfl)
  · exact (hbehind (by decide) 3).1 (by decide)
  · exact (hslashes (by decide) 1).1 (by decide)

/-- The normal form of an address can end in a blank, which slashes hid, and so have another normal
form; slashes behind a blank keep it; and two slashes turn the name of a machine into a scheme. -/
theorem not_normalize_canonical :
    (¬ ∀ (address : String) (root : Location), ofAddress address = .ok root →
      normalize root.address = root.address) ∧
    (¬ ∀ (address : String) (root : Location) (n : Nat), ofAddress address = .ok root →
      ¬ CompletesScheme (Text.trim address.toList) n →
        normalize (String.ofList (address.toList ++ slashes n)) = root.address) ∧
    ¬ ∀ (address : String) (root : Location) (n : Nat), ofAddress address = .ok root →
      ¬ EndsBlank address.toList →
        normalize (String.ofList (address.toList ++ slashes n)) = root.address := by
  refine ⟨fun h => ?_, fun h => ?_, fun h => ?_⟩
  · have hsame := h "http://a/ /" ⟨"http://a/ ", Query.empty⟩ rfl
    exact absurd hsame (by decide)
  · have hsame := h "http://a " ⟨"http://a", Query.empty⟩ 1 rfl (by decide)
    exact absurd hsame (by decide)
  · have hsame := h "http:" ⟨"https://http:", Query.empty⟩ 2 rfl (by decide)
    exact absurd hsame (by decide)

end Location

end LiveTree
