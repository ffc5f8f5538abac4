import LiveTree.Proofs.Json.Meaning

namespace LiveTree.Json

open Text.Utf8 (encode encode_append)

def ScalarShape.fitted? (s : ScalarShape) (o : Option Json) : Option Json :=
  o.bind fun j => (s.fit j).toOption

def Shape.fitted? (shape : Shape) (o : Option Json) : Option Json :=
  o.bind fun j => (shape.fit j).toOption

section Parts

variable (s : ScalarShape)

theorem fitItems_cons (x : Json) (xs : List Json) : (fitItems s (x :: xs)).toOption =
    (s.fit x).toOption.bind fun y => (fitItems s xs).toOption.map (y :: ·) := by
  rw [fitItems]
  cases s.fit x with
  | error cause => rfl
  | ok y => cases fitItems s xs <;> rfl

theorem fitMembers_cons (key : String) (x : Json) (m : Keyed Json) :
    (fitMembers s ((key, x) :: m)).toOption =
      (s.fit x).toOption.bind fun y => (fitMembers s m).toOption.map ((key, y) :: ·) := by
  rw [fitMembers]
  cases s.fit x with
  | error cause => rfl
  | ok y => cases fitMembers s m <;> rfl

theorem mapM_fitted (items : List (List Char × Option Json)) :
    (items.map fun i => (i.1, s.fitted? i.2)).mapM Prod.snd =
      (items.mapM Prod.snd).bind fun xs => (fitItems s xs).toOption := by
  induction items with
  | nil => rfl
  | cons i items ih =>
      obtain ⟨t, o⟩ := i
      rw [List.map_cons, mapM_snd_cons, mapM_snd_cons, ih]
      cases o with
      | none => rfl
      | some x =>
          rw [ScalarShape.fitted?, Option.bind_some, Option.bind_some]
          cases items.mapM Prod.snd with
          | none => cases s.fit x <;> rfl
          | some xs => exact (fitItems_cons s x xs).symm

theorem fitMembers_insert {key : String} (x : Json) {m : Keyed Json} (hkey : key ∉ m.keys) :
    (fitMembers s (m.insert key x)).toOption =
      (s.fit x).toOption.bind fun y => (fitMembers s m).toOption.map (·.insert key y) := by
  induction m with
  | nil =>
      rw [Keyed.insert, fitMembers_cons]
      rfl
  | cons e m ih =>
      obtain ⟨k, v⟩ := e
      obtain ⟨hne, hm⟩ := not_or.1 (mt List.mem_cons.2 hkey)
      have hne : key ≠ k := hne
      rw [Keyed.insert, if_neg hne, fitMembers_cons]
      by_cases hlt : key < k
      · rw [if_pos hlt, fitMembers_cons, fitMembers_cons]
        cases s.fit x with
        | error cause => rfl
        | ok y => 
          cases s.fit v with
          | error cause => rfl
          | ok w => cases fitMembers s m <;> simp [Keyed.insert, hne, hlt, Except.toOption]
      · rw [if_neg hlt, fitMembers_cons, ih hm]
        cases s.fit x with
        | error cause => cases s.fit v <;> rfl
        | ok y => 
          cases s.fit v with
          | error cause => rfl
          | ok w => cases fitMembers s m <;> simp [Keyed.insert, hne, hlt, Except.toOption]

theorem mem_keys_insert {key other : String} {x : Json} {m : Keyed Json}
    (h : other ∈ (m.insert key x).keys) : other = key ∨ other ∈ m.keys := by
  obtain ⟨e, he, rfl⟩ := List.mem_map.1 h
  rcases Keyed.mem_insert he with rfl | he
  · exact .inl rfl
  · exact .inr (List.mem_map.2 ⟨e, he, rfl⟩)

theorem gather_fitted {members : List (Option String × Option Json)}
    (hkeys : (members.filterMap Prod.fst).Nodup) {out : Keyed Json}
    (hout : ∀ key ∈ members.filterMap Prod.fst, key ∉ out.keys) :
    ((fitMembers s out).toOption.bind fun out =>
        gather (members.map fun m => (m.1, s.fitted? m.2)) out) =
      (gather members out).bind fun ms => (fitMembers s ms).toOption := by
  induction members generalizing out with
  | nil =>
      simp only [List.map_nil, gather_nil, Option.bind_some]
      exact Option.bind_fun_some _
  | cons m members ih =>
      obtain ⟨key, o⟩ := m
      simp only [List.map_cons, gather_cons]
      cases key with
      | none => cases fitMembers s out <;> rfl
      | some key =>
          cases o with
          | none => cases fitMembers s out <;> rfl
          | some x =>
              obtain ⟨hkey, hrest⟩ := List.nodup_cons.1 hkeys
              have hnew : key ∉ out.keys := hout key (List.mem_cons_self ..)
              have hothers : ∀ other ∈ members.filterMap Prod.fst,
                  other ∉ (out.insert key x).keys := by
                intro other hother hmem
                rcases mem_keys_insert hmem with rfl | hmem
                · exact hkey hother
                · exact hout other (List.mem_cons_of_mem _ hother) hmem
              have hgather := ih hrest hothers
              rw [fitMembers_insert s x hnew] at hgather
              simp only [Option.bind_some, ScalarShape.fitted?]
              rw [← hgather]
              cases fitMembers s out with
              | error cause => cases s.fit x <;> rfl
              | ok ms => cases s.fit x <;> rfl

end Parts

section Scalars

variable {n : Nat} {t : List Char} {o : Option Json} {c : Cursor}

theorem ScalarShape.startsWith_bracket (s : ScalarShape) :
    s.startsWith 0x5B = false ∧ s.startsWith 0x7B = false := by
  cases s <;> exact ⟨rfl, rfl⟩

theorem ScalarShape.fitted?_list (s : ScalarShape) (o : Option (List Json)) :
    s.fitted? (o.map .list) = none := by
  cases o with
  | none => rfl
  | some xs => cases s <;> rfl

theorem ScalarShape.fitted?_object (s : ScalarShape) (o : Option (Keyed Json)) :
    s.fitted? (o.map .object) = none := by
  cases o with
  | none => rfl
  | some ms => cases s <;> rfl

theorem ScalarShape.readFitted_of_not_startsWith {s : ScalarShape} {b : UInt8} {bytes : List UInt8}
    {now : Nat} (hc : c.skipBlanks = ⟨b :: bytes, now⟩) (hb : s.startsWith b = false) : ∃ f,
    s.readFitted c = .error f := by
  rw [ScalarShape.readFitted, firstByte_eq hc, ok_bind]
  exact ⟨_, if_neg (by simp [hb])⟩

theorem Means.settles_scalar (h : Means n t o) {s : ScalarShape} (hs : s.isWide = false) :
    Settles s.read t (s.fitted? o) := by
  rw [ScalarShape.read_eq hs]
  induction h with
  | padded hbefore hafter h ih => exact ih.padded hbefore hafter
  | scalar n h =>
      obtain ⟨b, bytes, hencode, hhead⟩ := h.exists_head
      by_cases hb : s.startsWith b = true
      · intro rest c hrest hc
        rw [hencode, List.cons_append] at hc
        obtain ⟨now, hnow⟩ := hc.skipBlanks hhead.visible
        rw [ScalarShape.readFitted, firstByte_eq hnow, ok_bind]
        simp only [hb, if_true]
        exact (hhead.reads rest now hrest).fitted s.fit
      · have hb : s.startsWith b = false := Bool.eq_false_iff.2 hb
        rw [ScalarShape.fitted?, hhead.misfit s hb]
        exact .misfit hencode hhead.visible fun hc =>
          ScalarShape.readFitted_of_not_startsWith hc hb
  | list =>
      rw [s.fitted?_list]
      exact .misfit rfl rfl fun hc =>
        ScalarShape.readFitted_of_not_startsWith hc s.startsWith_bracket.1
  | object =>
      rw [s.fitted?_object]
      exact .misfit rfl rfl fun hc =>
        ScalarShape.readFitted_of_not_startsWith hc s.startsWith_bracket.2

end Scalars

section Shapes

variable {n fuel : Nat} {t : List Char} {o : Option Json} {c : Cursor}

theorem Shape.fitted?_optionalText (h : o ≠ some .null) :
    Shape.optionalText.fitted? o = ScalarShape.text.fitted? o := by
  cases o with
  | none => rfl
  | some j =>
      cases j with
      | null => exact absurd rfl h
      | bool | number | text | list | object => rfl

theorem readOptional_of_ne {b : UInt8} {bytes : List UInt8} {now : Nat}
    (hc : c.skipBlanks = ⟨b :: bytes, now⟩) (hb : b ≠ 0x6E) :
    Shape.optionalText.read fuel c = ScalarShape.text.read ⟨b :: bytes, now⟩ := by
  rw [Shape.read]
  simp [hc, byte?_cons, hb]

theorem Means.settles_optionalText (h : Means n t o) :
    Settles (Shape.optionalText.read fuel) t (Shape.optionalText.fitted? o) := by
  induction h with
  | padded hbefore hafter h ih => exact ih.padded hbefore hafter
  | scalar n h =>
      intro rest c hrest hc
      obtain ⟨b, bytes, hencode, hhead⟩ := h.exists_head
      rw [hencode, List.cons_append] at hc
      obtain ⟨now, hnow⟩ := hc.skipBlanks hhead.visible
      by_cases hb : b = 0x6E
      · have hreach := hhead.reads rest now hrest
        obtain rfl := hhead.null_iff.1 hb
        subst hb
        have hread : Shape.optionalText.read fuel c =
            readScalar 0x6E ⟨0x6E :: (bytes ++ rest), now⟩ := by
          rw [Shape.read]
          simp [hnow, byte?_cons, readScalar]
        rw [hread]
        exact hreach
      · rw [readOptional_of_ne hnow hb, Shape.fitted?_optionalText (mt hhead.null_iff.2 hb)]
        refine (Means.scalar n h).settles_scalar (s := .text) rfl rest _ hrest ?_
        rw [hencode]
        rfl
  | @list n items gap hgap h ih =>
      intro rest c hrest hc
      obtain ⟨now, hnow⟩ := Cursor.At.skipBlanks (b := 0x5B) rfl hc
      rw [readOptional_of_ne hnow (by decide), Shape.fitted?_optionalText (by simp)]
      exact (Means.list hgap h).settles_scalar (s := .text) rfl rest _ hrest rfl
  | @object n members gap hgap hkeys h ih =>
      intro rest c hrest hc
      obtain ⟨now, hnow⟩ := Cursor.At.skipBlanks (b := 0x7B) rfl hc
      rw [readOptional_of_ne hnow (by decide), Shape.fitted?_optionalText (by simp)]
      exact (Means.object hgap hkeys h).settles_scalar (s := .text) rfl rest _ hrest rfl

theorem MeansScalar.fitted?_eq_none (h : MeansScalar t o) :
    Shape.integers.fitted? o = none ∧ Shape.integerMap.fitted? o = none := by
  cases h with
  | null | bool b => exact ⟨rfl, rfl⟩
  | number l => cases l.value? <;> exact ⟨rfl, rfl⟩
  | text gs => cases written gs <;> exact ⟨rfl, rfl⟩

theorem Shape.fitted?_integers_object (o : Option (Keyed Json)) :
    Shape.integers.fitted? (o.map .object) = none := by
  cases o <;> rfl

theorem Shape.fitted?_integerMap_list (o : Option (List Json)) :
    Shape.integerMap.fitted? (o.map .list) = none := by
  cases o <;> rfl

theorem Shape.fitted?_integers_list (o : Option (List Json)) :
    Shape.integers.fitted? (o.map .list) =
      (o.bind fun xs => (fitItems (.integer signed64) xs).toOption).map .list := by
  cases o with
  | none => rfl
  | some xs =>
      rw [Shape.fitted?, Option.map_some, Option.bind_some, Option.bind_some, Shape.fit]
      cases fitItems (.integer signed64) xs <;> rfl

theorem Shape.fitted?_integerMap_object (o : Option (Keyed Json)) :
    Shape.integerMap.fitted? (o.map .object) =
      (o.bind fun ms => (fitMembers (.integer signed64) ms).toOption).map .object := by
  cases o with
  | none => rfl
  | some ms =>
      rw [Shape.fitted?, Option.map_some, Option.bind_some, Option.bind_some, Shape.fit]
      cases fitMembers (.integer signed64) ms <;> rfl

theorem readIntegers_of_ne {b : UInt8} {bytes : List UInt8} {now : Nat}
    (hc : c.skipBlanks = ⟨b :: bytes, now⟩) (hb : b ≠ 0x5B) : ∃ f,
    Shape.integers.read fuel c = .error f := by
  simp only [Shape.read, firstByte_eq hc, ok_bind, if_neg hb]
  exact ⟨_, rfl⟩

theorem readIntegerMap_of_ne {b : UInt8} {bytes : List UInt8} {now : Nat}
    (hc : c.skipBlanks = ⟨b :: bytes, now⟩) (hb : b ≠ 0x7B) : ∃ f,
    Shape.integerMap.read fuel c = .error f := by
  simp only [Shape.read, firstByte_eq hc, ok_bind, if_neg hb]
  exact ⟨_, rfl⟩

theorem readIntegers_bracket {bytes : List UInt8} {now : Nat}
    (hc : c.skipBlanks = ⟨0x5B :: bytes, now⟩) : Shape.integers.read fuel c =
      readItems (ScalarShape.integer signed64).read fuel true [] ⟨bytes, now + 1⟩ >>= fun r =>
        .ok (.list r.1, r.2) := by
  have hdeep : ¬ depthBudget ≤ 1 := by decide
  simp only [Shape.read, firstByte_eq hc, ok_bind, if_true, enter, if_neg hdeep, next_cons]

theorem readIntegerMap_brace {bytes : List UInt8} {now : Nat}
    (hc : c.skipBlanks = ⟨0x7B :: bytes, now⟩) : Shape.integerMap.read fuel c =
      readMembers (ScalarShape.integer signed64).read fuel true [] ⟨bytes, now + 1⟩ >>= fun r =>
        .ok (.object r.1, r.2) := by
  have hdeep : ¬ depthBudget ≤ 1 := by decide
  simp only [Shape.read, firstByte_eq hc, ok_bind, if_true, enter, if_neg hdeep, next_cons]

theorem Means.settles_integers (h : Means n t o) (hfuel : t.length < fuel) :
    Settles (Shape.integers.read fuel) t (Shape.integers.fitted? o) := by
  induction h with
  | padded hbefore hafter h ih =>
      simp only [List.length_append] at hfuel
      exact (ih (by omega)).padded hbefore hafter
  | scalar n h =>
      obtain ⟨b, bytes, hencode, hhead⟩ := h.exists_head
      rw [h.fitted?_eq_none.1]
      exact .misfit hencode hhead.visible fun hc => readIntegers_of_ne hc hhead.apart.1
  | object =>
      rw [Shape.fitted?_integers_object]
      exact .misfit rfl rfl fun hc => readIntegers_of_ne hc (by decide)
  | @list n items gap hgap h ih =>
      intro rest c _ hc
      let s : ScalarShape := .integer signed64
      let typed := items.map fun i => (i.1, s.fitted? i.2)
      have htexts : typed.map Prod.fst = items.map Prod.fst := by
        simp [typed]
      have hitems : ∀ i ∈ typed, Shows i.1 ∧ Settles s.read i.1 i.2 := by
        intro i hi
        obtain ⟨part, hpart, rfl⟩ := List.mem_map.1 hi
        exact ⟨(h part hpart).shows, (h part hpart).settles_scalar rfl⟩
      have hcount := length_le_partsText [] gap ']' (items.map Prod.fst)
      rw [← htexts, List.length_map, htexts] at hcount
      rw [List.length_cons] at hfuel
      obtain ⟨now, hnow⟩ := Cursor.At.skipBlanks (b := 0x5B) rfl hc
      have hread := reaches_readItems hgap hitems (show typed.length < fuel by omega) true []
        (Cursor.at_mk (encode (partsText [] gap ']' true (typed.map Prod.fst)) ++ rest) (now + 1))
      have hall : (typed.mapM Prod.snd).map (([] : List Json).reverse ++ ·) =
          typed.mapM Prod.snd := by
        cases typed.mapM Prod.snd <;> rfl
      rw [hall, htexts, mapM_fitted] at hread
      rw [readIntegers_bracket hnow, Shape.fitted?_integers_list]
      exact hread.map Json.list

theorem Means.settles_integerMap (h : Means n t o) (hfuel : t.length < fuel) :
    Settles (Shape.integerMap.read fuel) t (Shape.integerMap.fitted? o) := by
  induction h with
  | padded hbefore hafter h ih =>
      simp only [List.length_append] at hfuel
      exact (ih (by omega)).padded hbefore hafter
  | scalar n h =>
      obtain ⟨b, bytes, hencode, hhead⟩ := h.exists_head
      rw [h.fitted?_eq_none.2]
      exact .misfit hencode hhead.visible fun hc => readIntegerMap_of_ne hc hhead.apart.2.1
  | list =>
      rw [Shape.fitted?_integerMap_list]
      exact .misfit rfl rfl fun hc => readIntegerMap_of_ne hc (by decide)
  | @object n members gap hgap hkeys h ih =>
      intro rest c _ hc
      let s : ScalarShape := .integer signed64
      let typed := members.map fun m => (m.1, m.2.1, s.fitted? m.2.2)
      let entries := members.map fun m => (m.1.key?, m.2.2)
      have htexts : typed.map (fun m => m.1.text ++ ':' :: m.2.1) =
          members.map fun m => m.1.text ++ ':' :: m.2.1 := by
        simp [typed]
      have hmembers : ∀ m ∈ typed, Settles s.read m.2.1 m.2.2 := by
        intro m hm
        obtain ⟨part, hpart, rfl⟩ := List.mem_map.1 hm
        exact (h part hpart).settles_scalar rfl
      have hentries : typed.map (fun m => (m.1.key?, m.2.2)) =
          entries.map fun e => (e.1, s.fitted? e.2) := by
        simp [typed, entries]
      have hnodup : (entries.filterMap Prod.fst).Nodup := by
        rw [List.filterMap_map]
        exact hkeys
      have hempty : ∀ key ∈ entries.filterMap Prod.fst, key ∉ Keyed.keys ([] : Keyed Json) :=
        fun _ _ => List.not_mem_nil
      have hgather := gather_fitted s hnodup hempty
      have hcount := length_le_partsText [] gap '\x7d' (typed.map fun m => m.1.text ++ ':' :: m.2.1)
      rw [List.length_map, htexts] at hcount
      rw [List.length_cons] at hfuel
      obtain ⟨now, hnow⟩ := Cursor.At.skipBlanks (b := 0x7B) rfl hc
      have hread := reaches_readMembers hgap hmembers (show typed.length < fuel by omega) true []
        (Cursor.at_mk (encode (partsText [] gap '\x7d' true
          (typed.map fun m => m.1.text ++ ':' :: m.2.1)) ++ rest) (now + 1))
      rw [htexts, hentries] at hread
      rw [readIntegerMap_brace hnow, Shape.fitted?_integerMap_object, ← hgather]
      exact hread.map Json.object

theorem Shape.fitted?_any (o : Option Json) : Shape.any.fitted? o = o := by
  cases o <;> rfl

def Shape.isWide : Shape → Bool
  | .scalar s => s.isWide
  | _ => false

theorem Means.settles_shape (h : Means n t o) (hdepth : n < depthBudget) (hfuel : t.length < fuel)
    {shape : Shape} (hshape : shape.isWide = false) :
    Settles (shape.read fuel) t (shape.fitted? o) := by
  cases shape with
  | any =>
      rw [Shape.fitted?_any]
      exact h.settles hdepth hfuel
  | scalar s => exact h.settles_scalar hshape
  | optionalText => exact h.settles_optionalText
  | integers => exact h.settles_integers hfuel
  | integerMap => exact h.settles_integerMap hfuel

theorem Means.ofBytes_narrow_iff (h : Means n t o) (hdepth : n < depthBudget) {shape : Shape}
    (hshape : shape.isWide = false) (v : Json) :
    shape.ofBytes (encode t) = .ok v ↔ shape.fitted? o = some v :=
  (h.settles_shape hdepth (Nat.lt_succ_of_le (Text.Utf8.length_le_encode t)) hshape).readWhole_iff v

end Shapes

end LiveTree.Json
