import LiveTree.Proofs.Session.Isolation

namespace LiveTree

namespace Settings

def decimalValue : List Char → Nat
  | [] => 0
  | c :: cs => (c.toNat - '0'.toNat) * Nat.pow 10 cs.length + decimalValue cs

/-- A text writes a number of milliseconds if it has nothing but digits, or these behind a plus
sign, and their number has no more than 64 bits. -/
def WritesMillis (text : List Char) (n : Nat) : Prop :=
  ∃ digits, (text = digits ∨ text = '+' :: digits) ∧ digits ≠ [] ∧
    (∀ c ∈ digits, c.isDigit = true) ∧ decimalValue digits = n ∧ n < 0x10000000000000000

namespace Environment

def GivesMillis (e : Environment) (n : Nat) : Prop :=
  ∃ raw, e.timeoutMillis = some raw ∧ WritesMillis (Text.trim raw.toList) n

def proxyText (e : Environment) : List Char :=
  e.proxy.elim [] fun raw => Text.trim raw.toList

/-- No proxy, or one that a client can use. -/
def HasUsableProxy (e : Environment) : Prop :=
  e.proxyText = [] ∨ isProxy e.proxyText = true

instance (e : Environment) : Decidable e.HasUsableProxy :=
  inferInstanceAs (Decidable (_ ∨ _))

end Environment

variable {e : Environment} {n : Nat} {text : List Char}

theorem digitIn?_ten (c : Char) :
    Url.digitIn? 10 c = if c.isDigit then some (c.toNat - '0'.toNat) else none := by
  have hdigit : c.isDigit = true ↔ 0x30 ≤ c.toNat ∧ c.toNat ≤ 0x39 := by
    simp [Char.isDigit, UInt32.le_iff_toNat_le]
  have hzero : '0'.toNat = 0x30 := rfl
  simp only [Url.digitIn?, hdigit, hzero, Bool.and_eq_true, decide_eq_true_eq]
  by_cases hc : 0x30 ≤ c.toNat ∧ c.toNat ≤ 0x39
  · have hvalue : c.toNat - 0x30 < 10 := by omega
    rw [if_pos hc, if_pos hvalue, if_pos hc]
  · rw [if_neg hc, if_neg hc, if_neg]
    split
    · omega
    · split <;> omega

theorem foldlM_digits (n : Nat) (cs : List Char) :
    cs.foldlM (fun n c => (Url.digitIn? 10 c).map (n * 10 + ·)) n =
      if cs.all Char.isDigit then some (n * Nat.pow 10 cs.length + decimalValue cs) else none := by
  induction cs generalizing n with
  | nil => simp [decimalValue]
  | cons c cs ih =>
      rw [List.foldlM_cons, digitIn?_ten]
      cases hc : c.isDigit with
      | false => simp [hc]
      | true =>
          have hpow : Nat.pow 10 (cs.length + 1) = 10 * Nat.pow 10 cs.length := Nat.mul_comm ..
          have hshift : (n * 10 + (c.toNat - '0'.toNat)) * Nat.pow 10 cs.length + decimalValue cs =
              n * Nat.pow 10 (cs.length + 1) + ((c.toNat - '0'.toNat) * Nat.pow 10 cs.length +
                decimalValue cs) := by
            rw [hpow, Nat.add_mul, Nat.mul_assoc, Nat.add_assoc]
          simp only [if_true, Option.map_some, Option.bind_eq_bind, Option.bind_some, ih,
            List.all_cons, hc, Bool.true_and, List.length_cons, decimalValue, hshift]

theorem numberIn?_ten (cs : List Char) :
    Url.numberIn? 10 cs = if cs.all Char.isDigit then some (decimalValue cs) else none := by
  rw [Url.numberIn?, foldlM_digits, Nat.zero_mul, Nat.zero_add]

theorem readDigits_eq_some_iff {digits : List Char} :
    (if digits = [] then none else (Url.numberIn? 10 digits).filter (· < 0x10000000000000000)) =
      some n ↔
    digits ≠ [] ∧ (∀ c ∈ digits, c.isDigit = true) ∧ decimalValue digits = n ∧
      n < 0x10000000000000000 := by
  rw [numberIn?_ten]
  by_cases hd : digits = []
  · simp [hd]
  · by_cases hall : digits.all Char.isDigit = true
    · rw [if_neg hd, if_pos hall, Option.filter_eq_some_iff, decide_eq_true_iff]
      exact ⟨fun ⟨hn, hlt⟩ => ⟨hd, List.all_eq_true.1 hall, Option.some.inj hn, hlt⟩,
        fun ⟨_, _, hn, hlt⟩ => ⟨congrArg some hn, hlt⟩⟩
    · rw [if_neg hd, if_neg hall]
      exact ⟨nofun, fun ⟨_, hdigits, _⟩ => absurd (List.all_eq_true.2 hdigits) hall⟩

theorem parseMillis_eq_some_iff : parseMillis text = some n ↔ WritesMillis text n := by
  unfold parseMillis
  simp only [readDigits_eq_some_iff]
  split
  · next cs =>
      refine ⟨fun h => ⟨cs, .inr rfl, h⟩, ?_⟩
      rintro ⟨digits, hdigits | hdigits, h⟩
      · exact nomatch h.2.1 '+' (hdigits ▸ List.mem_cons_self ..)
      · exact (List.cons.inj hdigits).2 ▸ h
  · next hsign =>
      refine ⟨fun h => ⟨text, .inl rfl, h⟩, ?_⟩
      rintro ⟨digits, hdigits | hdigits, h⟩
      · exact hdigits ▸ h
      · exact absurd hdigits (hsign digits)

theorem timeout_withEnvironment (s : Settings) (e : Environment) : (s.withEnvironment e).timeout =
    (e.timeoutMillis.bind fun raw => parseMillis (Text.trim raw.toList)).elim s.timeout
      Span.ofMillis := by
  cases hraw : e.timeoutMillis with
  | none =>
      simp only [withEnvironment, hraw]
      cases e.proxy <;> rfl
  | some raw =>
      -- rewritten step by step: to unfold the span of an unknown number is a long computation
      rw [Option.bind_some]
      cases hn : parseMillis (Text.trim raw.toList) with
      | none =>
          rw [Option.elim_none]
          simp only [withEnvironment, hraw, hn]
          cases e.proxy <;> rfl
      | some n =>
          rw [Option.elim_some]
          simp only [withEnvironment, hraw, hn]
          cases e.proxy <;> rfl

theorem proxy_withEnvironment (s : Settings) (e : Environment) : (s.withEnvironment e).proxy =
    e.proxy.elim s.proxy fun raw => String.ofList (Text.trim raw.toList) := by
  rw [withEnvironment]
  cases e.proxy with
  | some raw => rfl
  | none =>
      cases e.timeoutMillis with
      | none => rfl
      | some raw =>
          simp only [Option.elim_none]
          split <;> rfl

theorem others_withEnvironment (s : Settings) (e : Environment) :
    (s.withEnvironment e).userAgent = s.userAgent ∧
      (s.withEnvironment e).watchBuffer = s.watchBuffer := by
  rw [withEnvironment]
  cases e.proxy <;> cases e.timeoutMillis with
  | none => exact ⟨rfl, rfl⟩
  | some raw =>
      simp only
      split <;> exact ⟨rfl, rfl⟩

theorem timeout_of_gives (h : e.GivesMillis n) :
    (ofEnvironment e).timeout = Span.ofMillis n := by
  obtain ⟨raw, hraw, hn⟩ := h
  rw [ofEnvironment, timeout_withEnvironment, hraw, Option.bind_some, parseMillis_eq_some_iff.2 hn,
    Option.elim_some]

theorem timeout_of_not_gives (h : ∀ n, ¬ e.GivesMillis n) :
    (ofEnvironment e).timeout = default.timeout := by
  have hnone : (e.timeoutMillis.bind fun raw => parseMillis (Text.trim raw.toList)) = none := by
    refine Option.bind_eq_none_iff.2 fun raw hraw => ?_
    refine Option.eq_none_iff_forall_ne_some.2 fun n hn => h n ?_
    exact ⟨raw, hraw, parseMillis_eq_some_iff.1 hn⟩
  rw [ofEnvironment, timeout_withEnvironment, hnone, Option.elim_none]

theorem proxy_ofEnvironment (e : Environment) :
    (ofEnvironment e).proxy = String.ofList e.proxyText := by
  rw [ofEnvironment, proxy_withEnvironment, Environment.proxyText]
  cases e.proxy <;> rfl

theorem problem?_ofEnvironment (e : Environment) : (ofEnvironment e).problem? =
    if e.HasUsableProxy then none else some (.config "invalid proxy URL: builder error") := by
  have hagent : (ofEnvironment e).userAgent = default.userAgent := (others_withEnvironment ..).1
  have hheader : isHeaderText default.userAgent.toList = true := by decide
  have hempty : String.ofList e.proxyText = "" ↔ e.proxyText = [] := by
    rw [← String.toList_inj, String.toList_ofList]
    rfl
  simp only [problem?, proxy_ofEnvironment, hagent, hheader, String.toList_ofList,
    Environment.HasUsableProxy]
  by_cases hnone : e.proxyText = []
  · simp [hnone]
  · by_cases hproxy : isProxy e.proxyText = true <;> simp [hempty, hnone, hproxy]

end Settings

namespace Session

open Settings (Environment)

variable {address : String} {root : Location}

theorem connect_of_accepted (h : Location.ofAddress address = .ok root) (s : Session)
    (settings : Settings) : s.connect address settings =
      match settings.problem? with
      | some f => .error f
      | none => .ok { s with
          clients := s.clients ++ [⟨settings, Traffic.new settings.timeout⟩]
          handles := s.handles ++ [⟨root, s.clients.length, Watch.System.new, false⟩] } := by
  rw [connect, h, newClient]
  cases settings.problem? <;> rfl

/-- At an address that is accepted, a client with settings from the environment can be built exactly
if the environment names no proxy or one that can be used. Its time is the one that the environment
gives, or the default if that gives none, whatever is said about a proxy. -/
theorem connect_environment_iff (h : Location.ofAddress address = .ok root) (s : Session)
    (e : Environment) :
    (∀ n, e.GivesMillis n → (Settings.ofEnvironment e).timeout = Span.ofMillis n) ∧
      ((∀ n, ¬ e.GivesMillis n) →
        (Settings.ofEnvironment e).timeout = Settings.default.timeout) ∧
      (∀ proxy, (Settings.ofEnvironment { e with proxy }).timeout =
        (Settings.ofEnvironment e).timeout) ∧
      (e.HasUsableProxy → ∃ t, s.connect address (Settings.ofEnvironment e) = .ok t ∧
        t.handles = s.handles ++ [⟨root, s.clients.length, Watch.System.new, false⟩] ∧
        t.timeout? s.handles.length = some (Settings.ofEnvironment e).timeout) ∧
      (¬ e.HasUsableProxy → s.connect address (Settings.ofEnvironment e) =
        .error (.config "invalid proxy URL: builder error")) := by
  refine ⟨fun n hn => Settings.timeout_of_gives hn, Settings.timeout_of_not_gives, fun proxy => ?_,
    fun hproxy => ?_, fun hproxy => ?_⟩
  · simp only [Settings.ofEnvironment, Settings.timeout_withEnvironment]
  · rw [connect_of_accepted h, Settings.problem?_ofEnvironment, if_pos hproxy]
    refine ⟨_, rfl, rfl, ?_⟩
    simp [timeout?, client?, handle?, Traffic.new, Option.filter]
  · rw [connect_of_accepted h, Settings.problem?_ofEnvironment, if_neg hproxy]

/-- A time with a sign, a leading zero and blanks, and a proxy without a scheme and with an
international name; and a time that has 65 bits, with a proxy that is none. -/
theorem connect_environment_iff_overlaid :
    let usable : Environment := ⟨some "\t+0250 ", some " b\u00FCcher.example:8080\n"⟩
    let faulty : Environment := ⟨some "18446744073709551616", some "://"⟩
    (∃ t, (start .unreachable).connect "db.test" (Settings.ofEnvironment usable) = .ok t ∧
      t.timeout? 0 = some (Span.ofMillis 250)) ∧
    (Settings.ofEnvironment faulty).timeout = Span.ofMillis 30000 ∧
      (start .unreachable).connect "db.test" (Settings.ofEnvironment faulty) =
        .error (.config "invalid proxy URL: builder error") := by
  intro usable faulty
  have hroot : Location.ofAddress "db.test" = .ok ⟨"https://db.test", Query.empty⟩ := rfl
  obtain ⟨hmillis, -, -, hbuilt, -⟩ := connect_environment_iff hroot (start .unreachable) usable
  obtain ⟨-, hdefault, -, -, hrefused⟩ :=
    connect_environment_iff hroot (start .unreachable) faulty
  have hgives : usable.GivesMillis 250 :=
    ⟨_, rfl, ['0', '2', '5', '0'], .inr (by decide), nofun, List.all_eq_true.1 rfl, rfl, by decide⟩
  have hproxy : usable.HasUsableProxy := .inr (by decide +kernel)
  have hnone : ∀ n, ¬ faulty.GivesMillis n := by
    rintro n ⟨raw, hraw, hn⟩
    obtain rfl := Option.some.inj hraw
    have hover : Settings.parseMillis (Text.trim "18446744073709551616".toList) = none := by decide
    exact nomatch hover.symm.trans (Settings.parseMillis_eq_some_iff.2 hn)
  have hfaulty : ¬ faulty.HasUsableProxy := by
    rintro (hempty | hproxy)
    · exact absurd hempty (by decide)
    · exact absurd hproxy (by decide +kernel)
  obtain ⟨t, ht, -, htime⟩ := hbuilt hproxy
  refine ⟨⟨t, ht, htime.trans (congrArg some (hmillis 250 hgives))⟩, ?_, hrefused hfaulty⟩
  exact (hdefault hnone).trans (by decide)

/-- A proxy that is none is not ignored: where no proxy at all would do, no client is built. -/
theorem not_connect_environment : ¬ ∀ (address : String) (root : Location) (s : Session)
    (e : Environment), Location.ofAddress address = .ok root →
      ∃ t, s.connect address (Settings.ofEnvironment e) = .ok t := by
  intro h
  let e : Environment := ⟨none, some "://"⟩
  have hroot : Location.ofAddress "x.y" = .ok ⟨"https://x.y", Query.empty⟩ := rfl
  obtain ⟨t, ht⟩ := h _ _ (start .unreachable) e hroot
  have hfaulty : (Settings.ofEnvironment e).problem? =
      some (.config "invalid proxy URL: builder error") := by decide +kernel
  rw [connect_of_accepted hroot, hfaulty] at ht
  exact nomatch ht

end Session

end LiveTree
