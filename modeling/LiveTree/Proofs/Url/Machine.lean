import LiveTree.Proofs.Text.Ascii
import LiveTree.Proofs.Text.Composition
import LiveTree.Proofs.Text.Triples
import LiveTree.Url.Parser

namespace LiveTree.Url

open Text.Utf8 (encode)

/-- A text does not end in a blank or a control character. -/
def EndsPlainly (cs : List Char) : Prop :=
  ∀ c ∈ cs.getLast?, 0x20 < c.toNat

theorem endsPlainly_append {cs : List Char} (before : List Char) (h : cs ≠ []) :
    EndsPlainly (before ++ cs) ↔ EndsPlainly cs := by
  rw [EndsPlainly, EndsPlainly, List.getLast?_append, List.getLast?_eq_some_getLast h,
    Option.some_or]

section Hosts

theorem isBare_of_le : ∀ n ≤ 0x20, Text.Percent.isBare (UInt8.ofNat n) = true := by
  decide

theorem isForbiddenInName_of_le {c : Char} (h : c.toNat ≤ 0x20) :
    isForbiddenInName c = true := by
  rcases Nat.lt_or_eq_of_le h with h | h
  · simp [isForbiddenInName, isControl, h]
  · obtain rfl : c = ' ' := Char.toNat_inj.1 h
    decide

theorem toLower_of_le {c : Char} (h : c.toNat ≤ 0x20) : c.toLower = c := by
  have hupper : ¬ (c.val ≥ 'A'.val ∧ c.val ≤ 'Z'.val) := by
    rintro ⟨hlow, -⟩
    rw [ge_iff_le, UInt32.le_iff_toNat_le] at hlow
    have hc : c.val.toNat ≤ 0x20 := h
    have ha : 'A'.val.toNat = 65 := rfl
    omega
  exact dif_neg hupper

/-- A blank or a control character at the end of a name is read as itself, and refused. -/
theorem mem_plain_of_le {before cs : List Char} {c : Char} (hc : c.toNat ≤ 0x20)
    (h : Text.Utf8.decode (Text.Percent.decode (encode (before ++ [c]))) = .ok cs) : c ∈ cs := by
  have hbyte : (UInt8.ofNat c.toNat).toNat = c.toNat :=
    UInt8.toNat_ofNat_of_lt' (Nat.lt_of_le_of_lt hc (by decide))
  have hlow : UInt8.ofNat c.toNat < 0x80 := by
    rw [UInt8.lt_iff_toNat_lt, hbyte]
    exact Nat.lt_of_le_of_lt hc (by decide)
  have hchar : encode [c] = [UInt8.ofNat c.toNat] := by
    rw [encode, List.flatMap_singleton, Text.Utf8.utf8EncodeChar_ascii (by omega)]
  obtain ⟨bytes, hbytes⟩ := Text.Percent.exists_decode_append (isBare_of_le _ hc) (encode before)
  rw [Text.Utf8.encode_append, hchar, hbytes] at h
  have hmem := Text.Utf8.mem_of_decode hlow h
  rwa [hbyte, Char.ofNat_toNat] at hmem

theorem mem_of_mapM {cs : List Char} {parts : List (List Char)} {c : Char} {mapped : List Char}
    (h : cs.mapM mapped? = some parts) (hc : c ∈ cs) (hmapped : mapped? c = some mapped) :
    mapped ∈ parts := by
  induction cs generalizing parts with
  | nil => exact nomatch hc
  | cons d cs ih =>
      rw [List.mapM_cons] at h
      obtain ⟨first, hfirst, h⟩ := Option.bind_eq_some_iff.1 h
      obtain ⟨others, hothers, h⟩ := Option.bind_eq_some_iff.1 h
      obtain rfl := Option.some.inj h
      rcases List.mem_cons.1 hc with rfl | hc
      · obtain rfl := Option.some.inj (hmapped.symm.trans hfirst)
        exact List.mem_cons_self
      · exact List.mem_cons_of_mem _ (ih hothers hc)

theorem mem_normalized_of_le {cs name : List Char} {c : Char} (hc : c.toNat ≤ 0x20) (hmem : c ∈ cs)
    (h : normalized? cs = some name) : c ∈ name := by
  have hlower := toLower_of_le hc
  rw [normalized?] at h
  split at h
  · obtain rfl := Option.some.inj h
    exact List.mem_map.2 ⟨c, hmem, hlower⟩
  · obtain ⟨parts, hparts, rfl⟩ := Option.map_eq_some_iff.1 h
    have hmapped : mapped? c = some [c] := by
      rw [mapped?, if_pos (by simp only [isAscii, decide_eq_true_eq]; omega), hlower]
    have hpart := mem_of_mapM hparts hmem hmapped
    exact Text.mem_composed_of_le hc (List.mem_flatten.2 ⟨_, hpart, List.mem_singleton_self c⟩)

theorem machineName?_of_le {before : List Char} {c : Char} (hc : c.toNat ≤ 0x20) :
    machineName? (before ++ [c]) = none := by
  rw [machineName?]
  cases hplain : Text.Utf8.decode (Text.Percent.decode (encode (before ++ [c]))) with
  | error fault => rfl
  | ok plain =>
      change ((normalized? plain).bind fun name =>
        if name.any isForbiddenInName then none else asciiName? name) = none
      cases hname : normalized? plain with
      | none => rfl
      | some name =>
          have hmem := mem_normalized_of_le hc (mem_plain_of_le hc hplain) hname
          exact if_pos (List.any_eq_true.2 ⟨c, hmem, isForbiddenInName_of_le hc⟩)

theorem endsPlainly_of_parseHost {cs : List Char} {h : Host} (hcs : parseHost cs = .ok h) :
    EndsPlainly cs := by
  rw [parseHost.eq_def] at hcs
  split at hcs
  · next rest =>
      rw [parseBracketed] at hcs
      split at hcs
      · next hlast =>
          have hne : rest ≠ [] := by
            rintro rfl
            cases hlast
          rw [← List.singleton_append, endsPlainly_append _ hne, EndsPlainly, hlast]
          simp
      · cases hcs
  · intro c hlast
    obtain ⟨before, rfl⟩ := List.getLast?_eq_some_iff.1 hlast
    refine Nat.lt_of_not_le fun hlow => ?_
    rw [machineName?_of_le hlow] at hcs
    exact nomatch hcs

end Hosts

section Authorities

theorem splitHost_append (inside : Bool) (cs host : List Char) :
    (splitHost inside cs host).1 ++ (splitHost inside cs host).2 = host.reverse ++ cs := by
  induction cs generalizing inside host with
  | nil => simp [splitHost]
  | cons c cs ih =>
      rw [splitHost]
      split
      · rfl
      · rw [ih, List.reverse_cons, List.append_assoc, List.singleton_append]

theorem splitHost_snd (inside : Bool) (cs host : List Char) :
    (splitHost inside cs host).2.head?.all (· = ':') = true := by
  induction cs generalizing inside host with
  | nil => rfl
  | cons c cs ih =>
      rw [splitHost]
      split
      · next hc => simpa using (Bool.and_eq_true_iff.1 hc).1
      · exact ih _ _

theorem drop_length_takeWhile (p : Char → Bool) (cs : List Char) :
    cs.drop (cs.takeWhile p).length = cs.dropWhile p := by
  induction cs with
  | nil => rfl
  | cons c cs ih => cases hc : p c <;> simp [hc, ih]

theorem all_head?_dropWhile (p : Char → Bool) (cs : List Char) :
    (cs.dropWhile p).head?.all (fun c => !p c) = true := by
  induction cs with
  | nil => rfl
  | cons c cs ih => cases hc : p c <;> simp [hc, ih]

theorem parseNumber_ok {cs behind : List Char} {number : Option Nat} (hslash : '\\' ∉ cs)
    (h : parseNumber cs = .ok (number, behind)) : behind = [] ∧ ∀ c ∈ cs, c.isDigit = true := by
  have hsplit := List.takeWhile_append_dropWhile (p := Char.isDigit) (l := cs)
  have hrest : cs.dropWhile Char.isDigit = [] := by
    cases hr : cs.dropWhile Char.isDigit with
    | nil => rfl
    | cons c rest =>
        have hc : c ∈ cs := by
          rw [← hsplit, hr]
          simp
        have hne : c ≠ '\\' := fun he => hslash (he ▸ hc)
        simp only [parseNumber, drop_length_takeWhile, hr] at h
        rw [if_pos (by simpa using hne)] at h
        cases h
  rw [hrest, List.append_nil] at hsplit
  refine ⟨?_, fun c hc => ?_⟩
  · simp only [parseNumber, drop_length_takeWhile, hrest] at h
    rw [if_neg (by simp)] at h
    split at h
    · exact (Prod.mk.inj (Except.ok.inj h)).2.symm
    · split at h
      · split at h
        · exact (Prod.mk.inj (Except.ok.inj h)).2.symm
        · cases h
      · cases h
  · rw [← hsplit] at hc
    exact List.all_eq_true.1 List.all_takeWhile c hc

theorem lt_of_isDigit {c : Char} (h : c.isDigit = true) : 0x20 < c.toNat := by
  simp only [Char.isDigit, Bool.and_eq_true, decide_eq_true_eq, ge_iff_le,
    UInt32.le_iff_toNat_le] at h
  have hlow : 48 ≤ c.val.toNat := h.1
  change 0x20 < c.val.toNat
  omega

theorem parseHostAndNumber_ok {scheme cs behind : List Char} {host : Option Host}
    {number : Option Nat} (hslash : '\\' ∉ cs)
    (h : parseHostAndNumber true scheme cs = .ok (host, number, behind)) :
    behind = [] ∧ cs ≠ [] ∧ EndsPlainly cs := by
  have hparts := splitHost_append false cs []
  have hcolon := splitHost_snd false cs []
  simp only [parseHostAndNumber] at h
  generalize splitHost false cs [] = parts at h hparts hcolon
  obtain ⟨hostText, rest⟩ := parts
  rw [List.reverse_nil, List.nil_append] at hparts
  simp only at h hparts hcolon
  subst hparts
  by_cases hempty : hostText = []
  · simp only [if_true, if_pos hempty] at h
    cases h
  simp only [if_true, if_neg hempty] at h
  cases hhost : parseHost hostText with
  | error fault => rw [hhost] at h; cases h
  | ok found =>
      cases hnumber : parseNumber rest.tail with
      | error fault => rw [hhost, hnumber] at h; cases h
      | ok result =>
          rw [hhost, hnumber] at h
          obtain ⟨read, behind⟩ := result
          obtain ⟨-, -, rfl⟩ : _ ∧ _ ∧ behind = _ := by simpa [bind, Except.bind, Except.map] using h
          have htail : '\\' ∉ rest.tail := fun hm => hslash (by simp [List.mem_of_mem_tail hm])
          obtain ⟨hbehind, hdigits⟩ := parseNumber_ok htail hnumber
          refine ⟨hbehind, by simp [hempty], ?_⟩
          cases rest with
          | nil =>
              rw [List.append_nil]
              exact endsPlainly_of_parseHost hhost
          | cons d rest =>
              -- the colon or the last digit
              rw [endsPlainly_append _ (List.cons_ne_nil d rest)]
              intro c hc
              rcases List.mem_cons.1 (List.mem_of_getLast? hc) with rfl | hc
              · obtain rfl : c = ':' := by simpa using hcolon
                decide
              · exact lt_of_isDigit (hdigits c hc)

theorem splitUser_snd (cs : List Char) : (splitUser cs).2 <:+ cs := by
  have hbehind : (cs.reverse.takeWhile (· ≠ '@')).reverse <:+ cs := by
    rw [← List.reverse_prefix, List.reverse_reverse]
    exact List.takeWhile_prefix _
  simp only [splitUser]
  split
  · exact List.suffix_refl cs
  · exact hbehind

/-- The text of an authority is read to its end, in whatever way it goes on behind it. -/
theorem parseAuthority_ok {scheme cs : List Char} {followed : Bool} {a : Authority}
    (hslash : '\\' ∉ cs) (h : parseAuthority true scheme cs followed = .ok a) :
    a.behind = [] ∧ cs ≠ [] ∧ EndsPlainly cs ∧
      ∀ also, parseAuthority true scheme cs also = .ok a := by
  have hmachine {machine : List Char} {result : Option Host × Option Nat × List Char}
      (hsuffix : machine <:+ cs) (hm : parseHostAndNumber true scheme machine = .ok result) :
      result.2.2 = [] ∧ cs ≠ [] ∧ EndsPlainly cs := by
    obtain ⟨before, rfl⟩ := hsuffix
    obtain ⟨hbehind, hne, hends⟩ :=
      parseHostAndNumber_ok (fun hs => hslash (List.mem_append_right _ hs)) hm
    exact ⟨hbehind, by simp [hne], (endsPlainly_append _ hne).2 hends⟩
  have hsuffix := splitUser_snd cs
  cases hparts : splitUser cs with
  | mk user machine =>
      rw [hparts] at hsuffix
      simp only [parseAuthority, hparts] at h ⊢
      cases hm : parseHostAndNumber true scheme machine with
      | error fault =>
          rcases user with _ | _ | ⟨c, user⟩
          · simp only [hm] at h
            cases h
          · simp only [hm] at h
            split at h <;> cases h
          · simp only [hm] at h
            cases h
      | ok result =>
          obtain ⟨hbehind, hcs⟩ := hmachine hsuffix hm
          have hfull : machine ≠ [] := by
            rintro rfl
            cases hm
          rcases user with _ | _ | ⟨c, user⟩
          · simp only [hm] at h ⊢
            obtain rfl := Except.ok.inj h
            exact ⟨hbehind, hcs.1, hcs.2, fun _ => rfl⟩
          · simp only [hm, hfull, decide_false, Bool.false_and, Bool.false_eq_true, if_false] at h ⊢
            obtain rfl := Except.ok.inj h
            exact ⟨hbehind, hcs.1, hcs.2, fun _ => rfl⟩
          · simp only [hm, bind, Except.bind] at h ⊢
            split at h
            · cases h
            · next hhost =>
                obtain rfl := Except.ok.inj h
                exact ⟨hbehind, hcs.1, hcs.2, fun _ => if_neg hhost⟩

end Authorities

end LiveTree.Url
