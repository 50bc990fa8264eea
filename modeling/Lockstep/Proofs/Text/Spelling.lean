/-
Spellings of characters in raw text, and what decoding makes of them
(`decode_spelled`). Raw text is a row of spellings: a character that is no
backslash, an escape that stands for a character, or a backslash that stays
with what it stands before (`exists_spellings`). Only at its end one of them
may be cut short. Each is decoded by itself, whatever follows
(`decodeChars_spelling`), so what comes of decoding is never looked at again.
-/
import Lockstep.Proofs.Text.Escape

namespace Lockstep.Text

/-! ## Hexadecimal digits -/

/-- A hexadecimal digit of either case. -/
structure HexDigit where
  value : Fin 16
  isUpper : Bool
  deriving DecidableEq, Repr

def HexDigit.char (d : HexDigit) : Char :=
  if d.isUpper then
    ['0', '1', '2', '3', '4', '5', '6', '7', '8', '9', 'A', 'B', 'C', 'D', 'E', 'F'][d.value]
  else
    ['0', '1', '2', '3', '4', '5', '6', '7', '8', '9', 'a', 'b', 'c', 'd', 'e', 'f'][d.value]

theorem hexValue?_char (d : HexDigit) : hexValue? d.char = .some d.value.val := by
  obtain ⟨value, isUpper⟩ := d
  revert value isUpper
  decide

theorem toNat_char (d : HexDigit) : d.char.toNat =
    if d.value.val < 10 then 48 + d.value.val
    else if d.isUpper then 55 + d.value.val else 87 + d.value.val := by
  obtain ⟨value, isUpper⟩ := d
  revert value isUpper
  decide

/-- What has a value as a digit is a digit. -/
theorem exists_hexDigit {c : Char} {n : Nat} (h : hexValue? c = .some n) :
    ∃ d : HexDigit, d.char = c := by
  -- In each range of digits the code point tells the value.
  have hdigit (value : Nat) (isUpper : Bool) (hlt : value < 16)
      (hc : c.toNat = if value < 10 then 48 + value
        else if isUpper then 55 + value else 87 + value) : ∃ d : HexDigit, d.char = c :=
    ⟨⟨⟨value, hlt⟩, isUpper⟩, Char.toNat_inj.mp (by rw [toNat_char, hc])⟩
  unfold hexValue? at h
  split at h
  · next hdecimal =>
    have hrange : 48 ≤ c.toNat ∧ c.toNat ≤ 57 := Char.isDigit_iff_toNat.mp hdecimal
    exact hdigit (c.toNat - 48) false (by omega) (by rw [if_pos (by omega)]; omega)
  · split at h
    · next hlower =>
      have hrange : 97 ≤ c.toNat ∧ c.toNat ≤ 102 :=
        ⟨UInt32.le_iff_toNat_le.mp hlower.1, UInt32.le_iff_toNat_le.mp hlower.2⟩
      refine hdigit (c.toNat - 87) false (by omega) ?_
      rw [if_neg (by omega), if_neg (by decide)]
      omega
    · split at h
      · next hupper =>
        have hrange : 65 ≤ c.toNat ∧ c.toNat ≤ 70 :=
          ⟨UInt32.le_iff_toNat_le.mp hupper.1, UInt32.le_iff_toNat_le.mp hupper.2⟩
        refine hdigit (c.toNat - 55) true (by omega) ?_
        rw [if_neg (by omega), if_pos rfl]
        omega
      · cases h

namespace Escape

/-! ## Spellings -/

/-- The letters behind a backslash that stand for a character, and the characters. -/
def letters : List (Char × Char) :=
  [('\\', '\\'), ('n', '\n'), ('r', '\r'), ('t', '\t')]

/-- Two characters that are not both digits. -/
def NoPair (a b : Char) : Prop :=
  ∀ high low : HexDigit, ¬ (a = high.char ∧ b = low.char)

/-- A piece of raw text that is decoded by itself. -/
inductive Spelling where
  /-- A character that is no backslash. -/
  | plain (c : Char) (h : c ≠ '\\')
  /-- A backslash and a letter. -/
  | letter (c d : Char) (h : (c, d) ∈ letters)
  /-- A backslash, `x` and two digits. -/
  | hex (high low : HexDigit)
  /-- A backslash, `x` and two characters that are not both digits. -/
  | garbled (a b : Char) (h : NoPair a b)
  /-- A backslash before any other character. -/
  | kept (c : Char) (h : c ∉ ['\\', 'n', 'r', 't', 'x'])

namespace Spelling

/-- The piece as it stands in raw text. -/
def raw : Spelling → List Char
  | .plain c _ => [c]
  | .letter c _ _ => ['\\', c]
  | .hex high low => ['\\', 'x', high.char, low.char]
  | .garbled a b _ => ['\\', 'x', a, b]
  | .kept c _ => ['\\', c]

/-- What the piece stands for. -/
def meaning : Spelling → List Char
  | .plain c _ => [c]
  | .letter _ d _ => [d]
  | .hex high low => [Char.ofNat (16 * high.value + low.value)]
  | .garbled a b _ => ['\\', 'x', a, b]
  | .kept c _ => ['\\', c]

end Spelling

/-- Raw text made of spellings. -/
def spelled (us : List Spelling) : String :=
  String.ofList (us.flatMap Spelling.raw)

/-- What the spellings stand for, one after the other. -/
def meant (us : List Spelling) : String :=
  String.ofList (us.flatMap Spelling.meaning)

/-- A backslash with too little behind it: no more, or `x` and no more than one character. -/
inductive IsCutShort : List Char → Prop
  | backslash : IsCutShort ['\\']
  | letter : IsCutShort ['\\', 'x']
  | digit (a : Char) : IsCutShort ['\\', 'x', a]

/-- The text with its backslashes doubled. -/
def doubled (text : String) : String :=
  String.ofList (text.toList.flatMap fun c => if c = '\\' then ['\\', '\\'] else [c])

variable {a b c d : Char} {cs ending : List Char}

theorem simple?_eq_some : simple? c = .some d ↔ (c, d) ∈ letters := by
  unfold simple? letters
  split <;> simp_all [eq_comm]

theorem simple?_eq_none (h : c ∉ ['\\', 'n', 'r', 't', 'x']) : simple? c = .none ∧ c ≠ 'x' := by
  simp only [List.mem_cons, List.not_mem_nil, or_false, not_or] at h
  exact ⟨by simp [simple?, h], h.2.2.2.2⟩

theorem hexPair?_char (high low : HexDigit) : hexPair? high.char low.char =
    .some (Char.ofNat (16 * high.value + low.value)) := by
  simp [hexPair?, hexValue?_char]

/-- What names a character as two digits are two digits. -/
theorem exists_digits (h : hexPair? a b = .some c) :
    ∃ high low : HexDigit, a = high.char ∧ b = low.char := by
  cases ha : hexValue? a with
  | none => simp [hexPair?, ha] at h
  | some m =>
    cases hb : hexValue? b with
    | none => simp [hexPair?, ha, hb] at h
    | some n =>
      obtain ⟨high, rfl⟩ := exists_hexDigit ha
      obtain ⟨low, rfl⟩ := exists_hexDigit hb
      exact ⟨high, low, rfl, rfl⟩

theorem hexPair?_eq_none : hexPair? a b = .none ↔ NoPair a b := by
  constructor
  · rintro h high low ⟨rfl, rfl⟩
    rw [hexPair?_char] at h
    cases h
  · intro h
    cases hpair : hexPair? a b with
    | none => rfl
    | some c =>
      obtain ⟨high, low, hboth⟩ := exists_digits hpair
      exact absurd hboth (h high low)

/-! ## Decoding them -/

/-- **Every spelling is decoded by itself**, whatever stands behind it. -/
theorem decodeChars_spelling (u : Spelling) (cs : List Char) :
    decodeChars (u.raw ++ cs) = u.meaning ++ decodeChars cs := by
  cases u with
  | plain c h => exact decodeChars_other h cs
  | letter c d h => exact decodeChars_simple (simple?_eq_some.mpr h) cs
  | hex high low => exact decodeChars_hex (hexPair?_char high low) cs
  | garbled a b h => exact decodeChars_garbled (hexPair?_eq_none.mpr h) cs
  | kept c h => exact decodeChars_kept (simple?_eq_none h).1 (simple?_eq_none h).2 cs

theorem decodeChars_spellings (us : List Spelling) (cs : List Char) :
    decodeChars (us.flatMap Spelling.raw ++ cs) =
      us.flatMap Spelling.meaning ++ decodeChars cs := by
  induction us with
  | nil => rfl
  | cons u us ih =>
    rw [List.flatMap_cons, List.flatMap_cons, List.append_assoc, decodeChars_spelling, ih,
      List.append_assoc]

/-- What is cut short stays as it is. -/
theorem decodeChars_isCutShort (h : IsCutShort cs) : decodeChars cs = cs := by
  cases h <;> simp [decodeChars]

/-- The text is made of spellings, with nothing behind them or one that is cut short. -/
def IsSpelled (cs : List Char) : Prop :=
  ∃ (us : List Spelling) (ending : List Char), cs = us.flatMap Spelling.raw ++ ending ∧
    (ending = [] ∨ IsCutShort ending)

theorem IsSpelled.cons (u : Spelling) (h : IsSpelled cs) : IsSpelled (u.raw ++ cs) := by
  obtain ⟨us, ending, rfl, hending⟩ := h
  exact ⟨u :: us, ending, by simp, hending⟩

theorem IsSpelled.cutShort (h : IsCutShort cs) : IsSpelled cs :=
  ⟨[], cs, rfl, .inr h⟩

/-- **Every raw text is made of spellings**, by induction on the way it is decoded. -/
theorem isSpelled (cs : List Char) : IsSpelled cs := by
  induction cs using decodeChars.induct with
  | case1 a b rest c h ih =>
    obtain ⟨high, low, rfl, rfl⟩ := exists_digits h
    exact ih.cons (.hex high low)
  | case2 a b rest h ih => exact ih.cons (.garbled a b (hexPair?_eq_none.mp h))
  | case3 rest hshort =>
    match rest with
    | [] => exact .cutShort .letter
    | [a] => exact .cutShort (.digit a)
    | a :: b :: rest => exact (hshort a b rest rfl).elim
  | case4 c rest _ _ d h ih => exact ih.cons (.letter c d (simple?_eq_some.mp h))
  | case5 c rest _ hx h ih =>
    refine ih.cons (.kept c fun hmem => ?_)
    simp only [List.mem_cons, List.not_mem_nil, or_false] at hmem
    rcases hmem with rfl | rfl | rfl | rfl | rfl
    · cases h
    · cases h
    · cases h
    · cases h
    · exact hx rfl
  | case6 c rest _ _ hlast ih =>
    by_cases hc : c = '\\'
    · cases rest with
      | nil =>
        rw [hc]
        exact .cutShort .backslash
      | cons d rest => exact (hlast d rest hc rfl).elim
    · exact ih.cons (.plain c hc)
  | case7 => exact ⟨[], [], rfl, .inl rfl⟩

/-- What a spelling stands for is never longer than the spelling. -/
theorem length_meaning_le (u : Spelling) : u.meaning.length ≤ u.raw.length := by
  cases u <;> simp [Spelling.meaning, Spelling.raw]

theorem length_decodeChars_le (cs : List Char) : (decodeChars cs).length ≤ cs.length := by
  obtain ⟨us, ending, rfl, hending⟩ := isSpelled cs
  have hkept : decodeChars ending = ending := by
    rcases hending with rfl | hending
    · exact decodeChars_nil
    · exact decodeChars_isCutShort hending
  rw [decodeChars_spellings, hkept]
  induction us with
  | nil => exact Nat.le_refl _
  | cons u us ih =>
    have hu := length_meaning_le u
    simp only [List.flatMap_cons, List.length_append] at ih ⊢
    omega

/-- Two characters behind `\x` are taken as they are, if they are not both digits; so is what there
is of them. -/
theorem decodeChars_noPair (h : ∀ a b rest, cs = a :: b :: rest → NoPair a b) :
    decodeChars ('\\' :: 'x' :: cs) = '\\' :: 'x' :: (cs.take 2 ++ decodeChars (cs.drop 2)) := by
  match cs with
  | [] => simp [decodeChars_isCutShort .letter]
  | [a] => simp [decodeChars_isCutShort (.digit a)]
  | a :: b :: rest => exact decodeChars_garbled (hexPair?_eq_none.mpr (h a b rest rfl)) rest

/-- Of doubled backslashes come single ones, and all else stays. -/
theorem decodeChars_doubled (cs : List Char) :
    decodeChars (cs.flatMap fun c => if c = '\\' then ['\\', '\\'] else [c]) = cs := by
  induction cs with
  | nil => rfl
  | cons c cs ih =>
    rw [List.flatMap_cons]
    split
    · next hc =>
      rw [hc, List.cons_append, List.singleton_append, decodeChars_simple rfl, ih]
    · next hc => rw [List.singleton_append, decodeChars_other hc, ih]

end Escape

open Escape

/-- **Decoding takes raw text spelling by spelling.** Whatever follows, of spellings comes what they
stand for, and what follows is decoded as if they were not there; so it makes no difference how
the same characters are spelled, and every text can be spelled. Behind `\x` up to two characters are
taken as they are, if they are not two digits. What is cut short at the end, a lone backslash for
one, stays; all raw text is made of spellings up to there, and decoding makes none longer. -/
theorem decode_spelled :
    (∀ us v, decode (spelled us ++ v) = meant us ++ decode v) ∧
    (∀ us us' v, meant us = meant us' → decode (spelled us ++ v) = decode (spelled us' ++ v)) ∧
    (∀ text, decode (doubled text) = text) ∧
    (∀ v : String, (∀ a b rest, v.toList = a :: b :: rest → NoPair a b) →
      decode ("\\x" ++ v) = "\\x" ++ String.ofList (v.toList.take 2) ++
        decode (String.ofList (v.toList.drop 2))) ∧
    (∀ us ending, IsCutShort ending →
      decode (spelled us ++ String.ofList ending) = meant us ++ String.ofList ending) ∧
    (∀ raw, ∃ us ending, (ending = [] ∨ IsCutShort ending) ∧
      raw = spelled us ++ String.ofList ending) ∧
    ∀ raw, (decode raw).length ≤ raw.length := by
  have hlaw : ∀ us v, decode (spelled us ++ v) = meant us ++ decode v := by
    intro us v
    rw [decode, String.toList_append, spelled, String.toList_ofList, decodeChars_spellings,
      String.ofList_append, ← meant, ← decode]
  refine ⟨hlaw, fun us us' v h => ?_, fun text => ?_, fun v h => ?_, fun us ending h => ?_,
    fun raw => ?_, fun raw => ?_⟩
  · rw [hlaw, hlaw, h]
  · rw [decode, doubled, String.toList_ofList, decodeChars_doubled, String.ofList_toList]
  · have hx : ("\\x" ++ v).toList = '\\' :: 'x' :: v.toList := by simp
    rw [decode, hx, decodeChars_noPair h, decode, String.toList_ofList, ← String.toList_inj]
    simp
  · rw [hlaw, decode, String.toList_ofList, decodeChars_isCutShort h]
  · obtain ⟨us, ending, hraw, hending⟩ := isSpelled raw.toList
    refine ⟨us, ending, hending, ?_⟩
    rw [spelled, ← String.ofList_append, ← hraw, String.ofList_toList]
  · rw [decode, String.length_ofList, ← String.length_toList]
    exact length_decodeChars_le raw.toList

/-- A line feed, a backslash and two characters that stay, spelled in two ways; `\x` before what is
no digit, and a backslash at the end. -/
theorem decode_spelled_mixture :
    let us : List Spelling := [.letter 'n' '\n' (by decide), .hex ⟨5, false⟩ ⟨12, true⟩,
      .plain 'n' (by decide), .kept 'q' (by decide)]
    let us' : List Spelling := [.hex ⟨0, false⟩ ⟨10, false⟩, .letter '\\' '\\' (by decide),
      .plain 'n' (by decide), .kept 'q' (by decide)]
    spelled us = "\\n\\x5Cn\\q" ∧ spelled us' = "\\x0a\\\\n\\q" ∧ meant us = meant us' ∧
      decode (spelled us ++ "\\t") = decode (spelled us' ++ "\\t") ∧
      NoPair '4' 'g' ∧ decode ("\\x" ++ "4g\\t") = "\\x4g\t" ∧
      IsCutShort ['\\'] ∧ decode (spelled us ++ "\\") = "\n\\n\\q\\" := by
  intro us us'
  obtain ⟨-, hmixed, -, hgarbled, hcut, -, -⟩ := decode_spelled
  have hmeant : meant us = meant us' := by decide
  have hpair : NoPair '4' 'g' := hexPair?_eq_none.mp (by decide)
  refine ⟨by decide, by decide, hmeant, hmixed us us' "\\t" hmeant, hpair, ?_, .backslash,
    hcut us ['\\'] .backslash⟩
  refine (hgarbled "4g\\t" fun a b rest h => ?_).trans (by decide)
  have hchars : "4g\\t".toList = ['4', 'g', '\\', 't'] := by decide
  rw [hchars] at h
  cases h
  exact hpair

end Lockstep.Text
