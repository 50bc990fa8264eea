/-
Text that is written as UTF-8 is read as it was (`Utf8.decode_encode`), with
no byte left over.

The bytes of a character are one to four. Each case shows that the decoder
takes them for a character of that length, and that the bits which the bytes
carry make up the code point again.
-/
import Lockstep.Text.Utf8

namespace Lockstep.Text.Utf8

/-! ## Bytes of texts -/

theorem toList_loop (bytes : ByteArray) (i : Nat) (reversed : List UInt8) :
    ByteArray.toList.loop bytes i reversed = reversed.reverse ++ bytes.data.toList.drop i := by
  induction hn : bytes.size - i generalizing i reversed with
  | zero =>
    have hend : ¬ i < bytes.size := by omega
    have hdrop : bytes.data.toList.drop i = [] := by
      refine List.drop_eq_nil_of_le ?_
      have hsize : bytes.data.toList.length = bytes.size := by simp
      omega
    rw [ByteArray.toList.loop, if_neg hend, hdrop, List.append_nil]
  | succ n ih =>
    have hi : i < bytes.size := by omega
    have hlength : i < bytes.data.toList.length := by simpa using hi
    have hget : bytes.get! i = bytes.data.toList[i] := by
      cases bytes
      simp only [ByteArray.get!]
      simp at hlength
      simp [hlength]
    rw [ByteArray.toList.loop, if_pos hi, ih _ _ (by omega), List.drop_eq_getElem_cons hlength,
      hget, List.reverse_cons, List.append_assoc, List.singleton_append]

/-- The bytes of a text are those of its characters, one after the other. -/
theorem toList_toUTF8 (s : String) :
    s.toUTF8.toList = s.toList.flatMap String.utf8EncodeChar := by
  have hchars : s.toUTF8 = (s.toList.flatMap String.utf8EncodeChar).toByteArray := by
    rw [String.toUTF8_eq_toByteArray, ← String.utf8Encode_toList, List.utf8Encode]
  rw [hchars, ByteArray.toList, toList_loop]
  simp

/-! ## Characters -/

theorem toNat_ofNat_of_lt {n : Nat} (h : n < 256) : (UInt8.ofNat n).toNat = n := by
  simpa using h

theorem isTail_ofNat (n : Nat) : isTail (UInt8.ofNat (n % 64 + 128)) = true := by
  have h : (UInt8.ofNat (n % 64 + 128)).toNat = n % 64 + 128 := toNat_ofNat_of_lt (by omega)
  simp only [isTail, Bool.and_eq_true, decide_eq_true_eq, UInt8.le_iff_toNat_le, h]
  exact ⟨by simp, by simp; omega⟩

theorem tailBits_ofNat (n : Nat) : tailBits (UInt8.ofNat (n % 64 + 128)) = n % 64 := by
  have h : (UInt8.ofNat (n % 64 + 128)).toNat = n % 64 + 128 := toNat_ofNat_of_lt (by omega)
  rw [tailBits, h]
  omega

/-- A code point is no half of a pair, and not beyond the last one. -/
theorem toNat_bounds (c : Char) :
    (c.toNat < 0xd800 ∨ 0xdfff < c.toNat) ∧ c.toNat ≤ 0x10ffff := by
  have h := c.valid
  simp only [UInt32.isValidChar, Nat.isValidChar] at h
  change c.toNat < 0xd800 ∨ 0xdfff < c.toNat ∧ c.toNat < 0x110000 at h
  omega

theorem two?_ofNat {n : Nat} (h : 0x7f < n) (h' : n ≤ 0x7ff) :
    two? (UInt8.ofNat (n / 64 % 32 + 192)) (UInt8.ofNat (n % 64 + 128)) = .some (Char.ofNat n) := by
  have ha : (UInt8.ofNat (n / 64 % 32 + 192)).toNat = n / 64 % 32 + 192 :=
    toNat_ofNat_of_lt (by omega)
  have hn : (n / 64 % 32 + 192) % 32 * 64 + n % 64 = n := by omega
  rw [two?, tailBits_ofNat, ha, hn, if_pos]
  simp only [Bool.and_eq_true, decide_eq_true_eq, UInt8.le_iff_toNat_le, ha, isTail_ofNat, and_true]
  exact ⟨by simp; omega, by simp; omega⟩

theorem three?_ofNat {n : Nat} (h : 0x7ff < n) (h' : n ≤ 0xffff)
    (hpair : n < 0xd800 ∨ 0xdfff < n) :
    three? (UInt8.ofNat (n / 4096 % 16 + 224)) (UInt8.ofNat (n / 64 % 64 + 128))
      (UInt8.ofNat (n % 64 + 128)) = .some (Char.ofNat n) := by
  have ha : (UInt8.ofNat (n / 4096 % 16 + 224)).toNat = n / 4096 % 16 + 224 :=
    toNat_ofNat_of_lt (by omega)
  have hn : (n / 4096 % 16 + 224) % 16 * 4096 + n / 64 % 64 * 64 + n % 64 = n := by omega
  simp only [three?, tailBits_ofNat, ha, hn]
  rw [if_pos]
  simp only [Bool.and_eq_true, decide_eq_true_eq, UInt8.le_iff_toNat_le, ha, isTail_ofNat, and_true,
    Bool.not_eq_true', Bool.and_eq_false_iff, decide_eq_false_iff_not]
  exact ⟨⟨⟨by simp, by simp; omega⟩, by omega⟩, by omega⟩

theorem four?_ofNat {n : Nat} (h : 0xffff < n) (h' : n ≤ 0x10ffff) :
    four? (UInt8.ofNat (n / 262144 % 8 + 240)) (UInt8.ofNat (n / 4096 % 64 + 128))
      (UInt8.ofNat (n / 64 % 64 + 128)) (UInt8.ofNat (n % 64 + 128)) = .some (Char.ofNat n) := by
  have ha : (UInt8.ofNat (n / 262144 % 8 + 240)).toNat = n / 262144 % 8 + 240 :=
    toNat_ofNat_of_lt (by omega)
  have hn : (n / 262144 % 8 + 240) % 8 * 262144 + n / 4096 % 64 * 4096 + n / 64 % 64 * 64 +
      n % 64 = n := by omega
  simp only [four?, tailBits_ofNat, ha, hn]
  rw [if_pos]
  simp only [Bool.and_eq_true, decide_eq_true_eq, UInt8.le_iff_toNat_le, ha, isTail_ofNat, and_true]
  exact ⟨⟨⟨by simp, by simp; omega⟩, by omega⟩, by omega⟩

/-- A byte that begins three or four is no first byte of fewer. -/
theorem two?_eq_none {a : UInt8} (h : 0xdf < a.toNat) (b : UInt8) : two? a b = .none := by
  rw [two?, if_neg]
  simp only [Bool.and_eq_true, decide_eq_true_eq, UInt8.le_iff_toNat_le]
  intro ha
  have hle : a.toNat ≤ 0xdf := ha.1.2
  omega

theorem three?_eq_none {a : UInt8} (h : 0xef < a.toNat) (b c : UInt8) : three? a b c = .none := by
  simp only [three?]
  rw [if_neg]
  simp only [Bool.and_eq_true, decide_eq_true_eq, UInt8.le_iff_toNat_le]
  intro ha
  have hle : a.toNat ≤ 0xef := ha.1.1.1.1.2
  omega

/-- **The bytes of a character are decoded to it**, whatever follows them: by the number of bytes. -/
theorem decodeFrom_utf8EncodeChar (c : Char) (bs : List UInt8) :
    decodeFrom 0 (String.utf8EncodeChar c ++ bs) = .some c :: decodeFrom 0 bs := by
  obtain ⟨hpair, hmax⟩ := toNat_bounds c
  have hc : Char.ofNat c.toNat = c := Char.ofNat_toNat c
  have hval : c.val.toNat = c.toNat := rfl
  simp only [String.utf8EncodeChar, hval]
  split
  · next hone =>
    have ha : (UInt8.ofNat c.toNat).toNat = c.toNat := toNat_ofNat_of_lt (by omega)
    have hlt : UInt8.ofNat c.toNat < 0x80 := by
      rw [UInt8.lt_iff_toNat_lt, ha]
      exact Nat.lt_succ_of_le hone
    rw [List.singleton_append, decodeFrom, if_pos hlt, ha, hc]
  · next hone =>
    have hfirst : ∀ n, 0x80 ≤ n → n < 256 → ¬ UInt8.ofNat n < 0x80 := by
      intro n hn hn'
      rw [UInt8.lt_iff_toNat_lt, toNat_ofNat_of_lt hn']
      exact Nat.not_lt.mpr hn
    split
    · next htwo =>
      have hdecode := two?_ofNat (n := c.toNat) (by omega) htwo
      simp only [List.cons_append, List.nil_append]
      rw [decodeFrom, if_neg (hfirst _ (by omega) (by omega))]
      simp only [List.getElem?_cons_zero, Option.bind_some, hdecode, hc, decodeFrom]
    · next htwo =>
      split
      · next hthree =>
        have hdecode := three?_ofNat (n := c.toNat) (by omega) hthree hpair
        have hno := two?_eq_none (a := UInt8.ofNat (c.toNat / 4096 % 16 + 224))
          (by rw [toNat_ofNat_of_lt (by omega)]; omega)
        simp only [List.cons_append, List.nil_append]
        rw [decodeFrom, if_neg (hfirst _ (by omega) (by omega))]
        simp only [List.getElem?_cons_zero, List.getElem?_cons_succ, Option.bind_some, hno, hdecode,
          hc, decodeFrom]
      · next hthree =>
        have hdecode := four?_ofNat (n := c.toNat) (by omega) hmax
        have ha : (UInt8.ofNat (c.toNat / 262144 % 8 + 240)).toNat =
            c.toNat / 262144 % 8 + 240 := toNat_ofNat_of_lt (by omega)
        have hno := two?_eq_none (a := UInt8.ofNat (c.toNat / 262144 % 8 + 240)) (by omega)
        have hno' := three?_eq_none (a := UInt8.ofNat (c.toNat / 262144 % 8 + 240)) (by omega)
        simp only [List.cons_append, List.nil_append]
        rw [decodeFrom, if_neg (hfirst _ (by omega) (by omega))]
        simp only [List.getElem?_cons_zero, List.getElem?_cons_succ, Option.bind_some, hno, hno',
          hdecode, hc, decodeFrom]

/-! ## Texts -/

/-- **Text that is written as UTF-8 is read as it was.** -/
theorem decode_encode (s : String) : decode s.toUTF8.toList = s.toList.map .some := by
  rw [decode, toList_toUTF8]
  induction s.toList with
  | nil => rfl
  | cons c cs ih => rw [List.flatMap_cons, decodeFrom_utf8EncodeChar, ih, List.map_cons]

theorem mapM_id_some (cs : List Char) : (cs.map Option.some).mapM id = .some cs := by
  induction cs with
  | nil => rfl
  | cons c cs ih => simp [List.mapM_cons, ih]

theorem text?_encode (s : String) : text? s.toUTF8.toList = .some s := by
  rw [text?, decode_encode, mapM_id_some, Option.map_some, String.ofList_toList]

theorem mapM_id_eq_none {cs : List (Option Char)} : cs.mapM id = .none ↔ .none ∈ cs := by
  induction cs with
  | nil => simp
  | cons c cs ih =>
    cases c with
    | none => simp [List.mapM_cons]
    | some c =>
      rw [List.mem_cons, ← ih, List.mapM_cons]
      cases cs.mapM id <;> simp

theorem eq_map_of_mapM_id {cs : List (Option Char)} {ds : List Char} (h : cs.mapM id = .some ds) :
    cs = ds.map .some := by
  induction cs generalizing ds with
  | nil =>
    cases h
    rfl
  | cons c cs ih =>
    cases c with
    | none => simp [List.mapM_cons] at h
    | some c =>
      rw [List.mapM_cons] at h
      cases hrest : cs.mapM id with
      | none => simp [hrest] at h
      | some ds' =>
        rw [hrest] at h
        cases h
        rw [ih hrest, List.map_cons]

/-- Bytes are no text if one of them belongs to no character. -/
theorem text?_eq_none {bs : List UInt8} : text? bs = .none ↔ .none ∈ decode bs := by
  rw [text?, Option.map_eq_none_iff, mapM_id_eq_none]

/-- The text of bytes has the characters that these spell. -/
theorem decode_of_text? {bs : List UInt8} {s : String} (h : text? bs = .some s) :
    decode bs = s.toList.map .some := by
  obtain ⟨cs, hcs, rfl⟩ := Option.map_eq_some_iff.mp h
  rw [String.toList_ofList, eq_map_of_mapM_id hcs]

end Lockstep.Text.Utf8
