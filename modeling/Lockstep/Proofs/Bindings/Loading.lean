/-
What a file of bindings comes to, whatever it holds: the entries of a mapping,
or why there are none (`ofContents_cases`). What its reader raises is the error
of the file. A reader that decodes (`Decodes`) gives no value for bytes that are
not text throughout; those of this library do (`decodes_standard`).
-/
import Lockstep.Bindings
import Lockstep.Proofs.Json.Faults
import Lockstep.Proofs.Text.Utf8

namespace Lockstep

/-! ## Readers -/

/-- **The reader decodes**: it gives a value only for bytes that are text throughout, and does not
say of these that they are none. -/
structure Decodes (read : List UInt8 → Except ReaderFault Value) : Prop where
  text_of_ok : ∀ {bytes v}, read bytes = .ok v → ∃ s, Text.Utf8.text? bytes = .some s
  not_text : ∀ {bytes reason}, read bytes = .error (.notText reason) → Text.Utf8.text? bytes = .none

namespace Readers

theorem notText_mem_of_jsonFault {faults : List Json.Fault} {reason : String}
    (h : jsonFault faults = .notText reason) : .notText ∈ faults := by
  unfold jsonFault at h
  split at h
  · exact List.mem_cons_self
  · cases h

theorem decodes_readJson : Decodes readJson where
  text_of_ok {bytes v} h := by
    unfold readJson at h
    split at h
    · next j hj =>
      split at h
      · next hfaults =>
        cases htext : Text.Utf8.text? bytes with
        | some s => exact ⟨s, rfl⟩
        | none =>
          have hsome := Json.isSome_of_read hj (List.isEmpty_iff.mp hfaults) _
            (Text.Utf8.text?_eq_none.mp htext)
          cases hsome
      · cases h
    · cases h
  not_text {bytes reason} h := by
    -- Every fault of text is one of its own, and none of them is that it is no text.
    have hfault {j : Json} (hread : Json.read (Text.Utf8.decode bytes) = .ok j ∨
        Json.read (Text.Utf8.decode bytes) = .error j) (hj : jsonFault j.faults = .notText reason) :
        Text.Utf8.text? bytes = .none := by
      cases htext : Text.Utf8.text? bytes with
      | none => rfl
      | some s =>
        rw [Text.Utf8.decode_of_text? htext] at hread
        exact absurd (notText_mem_of_jsonFault hj) (Json.notText_not_mem_of_read hread)
    unfold readJson at h
    split at h
    · next j hj =>
      split at h
      · cases h
      · exact hfault (.inl hj) (Except.error.inj h)
    · next j hj => exact hfault (.inr hj) (Except.error.inj h)

theorem decodes_readYaml : Decodes readYaml where
  text_of_ok {bytes v} h := by
    unfold readYaml at h
    split at h
    · cases h
    · next s hs => exact ⟨s, hs⟩
  not_text {bytes reason} h := by
    unfold readYaml at h
    split at h
    · next hnone => exact hnone
    · next s hs =>
      cases hread : Yaml.read (Text.unifyLineEnds s.toList) with
      | ok v =>
        rw [hread] at h
        cases h
      | error e =>
        rw [hread] at h
        cases e <;> cases h

end Readers

namespace Bindings

variable {readers : Readers} {path : String} {bytes : List UInt8} {fault : ReaderFault}
  {contents : Except FileFault (List UInt8)}

/-- **The readers of this library decode.** -/
theorem decodes_standard (path : String) : Decodes (reader .standard path) := by
  unfold reader
  split
  · exact Readers.decodes_readJson
  · exact Readers.decodes_readYaml

/-- What the reader raises is the error of the file. -/
theorem ofContents_of_reader_error (h : reader readers path bytes = .error fault) :
    ofContents path (.ok bytes) readers = .error (.unread fault) := by
  dsimp only [ofContents]
  rw [h]
  rfl

/-- A value is a mapping, of which these are the entries, or it is none. -/
theorem ofContents_of_reader_ok {v : Value} (h : reader readers path bytes = .ok v) :
    (∃ entries, bound path v = .dict entries ∧
      ofContents path (.ok bytes) readers = .ok entries) ∨
    ofContents path (.ok bytes) readers = .error .notMapping := by
  dsimp only [ofContents]
  rw [h]
  dsimp only [Except.map]
  split
  · next herror => cases herror
  · next entries hentries => exact .inl ⟨entries, Except.ok.inj hentries, rfl⟩
  · exact .inr rfl

theorem ofContents_eq_ok {entries : List (Value × Value)}
    (h : ofContents path contents readers = .ok entries) :
    ∃ bytes v, contents = .ok bytes ∧ reader readers path bytes = .ok v := by
  cases contents with
  | error fault => cases h
  | ok bytes =>
    cases hread : reader readers path bytes with
    | ok v => exact ⟨bytes, v, rfl, hread⟩
    | error fault =>
      rw [ofContents_of_reader_error hread] at h
      cases h

theorem ofContents_eq_unread (h : ofContents path contents readers = .error (.unread fault)) :
    ∃ bytes, contents = .ok bytes ∧ reader readers path bytes = .error fault := by
  cases contents with
  | error fault => cases h
  | ok bytes =>
    cases hread : reader readers path bytes with
    | error fault' =>
      rw [ofContents_of_reader_error hread] at h
      cases h
      exact ⟨bytes, rfl, hread⟩
    | ok v =>
      rcases ofContents_of_reader_ok hread with ⟨entries, -, hentries⟩ | hnone
      · rw [hentries] at h
        cases h
      · rw [hnone] at h
        cases h

/-- **What a file of bindings comes to**: the entries of a mapping, or that it cannot be loaded;
unless its reader raises something else than that it is malformed, which is then the error. -/
theorem ofContents_cases (readers : Readers) (path : String)
    (contents : Except FileFault (List UInt8)) :
    (∃ entries, ofContents path contents readers = .ok entries) ∨
    (∃ e, ofContents path contents readers = .error e ∧ e.isOfLoading = true) ∨
    (∃ bytes fault, contents = .ok bytes ∧ reader readers path bytes = .error fault ∧
      ofContents path contents readers = .error (.unread fault) ∧
      (BindingsError.unread fault).isOfLoading = false) := by
  cases h : ofContents path contents readers with
  | ok entries => exact .inl ⟨entries, rfl⟩
  | error e =>
    right
    by_cases hload : e.isOfLoading = true
    · exact .inl ⟨e, rfl, hload⟩
    · right
      cases e with
      | unreadable | notMapping => exact absurd rfl hload
      | unread fault =>
        obtain ⟨bytes, hbytes, hread⟩ := ofContents_eq_unread h
        exact ⟨bytes, fault, hbytes, hread, rfl, Bool.eq_false_iff.mpr hload⟩

/-- **A file that is not text throughout gives no entries**, if its reader decodes. -/
theorem text_of_ofContents {entries : List (Value × Value)} (h : Decodes (reader readers path))
    (hload : ofContents path contents readers = .ok entries) :
    ∃ bytes s, contents = .ok bytes ∧ Text.Utf8.text? bytes = .some s := by
  obtain ⟨bytes, v, hbytes, hread⟩ := ofContents_eq_ok hload
  obtain ⟨s, hs⟩ := h.text_of_ok hread
  exact ⟨bytes, s, hbytes, hs⟩

/-- Of a file that is text it is not said that it is none. -/
theorem not_text_of_ofContents {reason : String} (h : Decodes (reader readers path))
    (hload : ofContents path contents readers = .error (.unread (.notText reason))) :
    ∃ bytes, contents = .ok bytes ∧ Text.Utf8.text? bytes = .none := by
  obtain ⟨bytes, hbytes, hread⟩ := ofContents_eq_unread hload
  exact ⟨bytes, hbytes, h.not_text hread⟩

end Bindings

end Lockstep
