/-
What the bindings from outside bind names to. An item `name=value` binds the
name without the blanks around it to the text behind the first equals sign, the
entry of a mapping whose key is a text binds this text. Of several that bind one
name the last one counts (`Table.last?`), and items come before entries
(`get?_mergeBindings`). A file that a document is written to holds the entries
that the document stands for (`ofContents_compact`).
-/
import Lockstep.Bindings
import Lockstep.Format
import Lockstep.Proofs.Json.Reading
import Lockstep.Proofs.Sequencing
import Lockstep.Proofs.Table
import Lockstep.Proofs.Text.Utf8

namespace Lockstep

namespace Defines

/-- A name and a text, of which an item is made. The name is not blank and ends where it should. -/
def IsProper (d : String × String) : Prop :=
  '=' ∉ d.1.toList ∧ Text.trim d.1 ≠ ""

/-- The item that binds the name to the text. -/
def written (d : String × String) : String :=
  d.1 ++ "=" ++ d.2

/-- What the item binds to what. -/
def binding (d : String × String) : String × String :=
  (Text.trim d.1, d.2)

theorem item_written {d : String × String} (h : IsProper d) : item (written d) = .ok (binding d) := by
  obtain ⟨name, value⟩ := d
  obtain ⟨hname, hblank⟩ := h
  have hbefore : ∀ c ∈ name.toList, (c != '=') = true := by
    intro c hc
    rw [bne_iff_ne]
    rintro rfl
    exact hname hc
  have hchars : (written (name, value)).toList = name.toList ++ '=' :: value.toList := by
    simp [written]
  have hdrop : (written (name, value)).toList.dropWhile (· != '=') = '=' :: value.toList := by
    rw [hchars, List.dropWhile_append_of_pos hbefore]
    rfl
  have htake : (written (name, value)).toList.takeWhile (· != '=') = name.toList := by
    rw [hchars, List.takeWhile_append_of_pos hbefore]
    simp
  have hfull : (Text.trim name).isEmpty = false := by
    simpa using hblank
  simp only [item, hdrop, htake, String.ofList_toList, hfull, binding]
  rfl

/-- **The table of items** that are proper: every name stands for what the last item for it says. -/
theorem table_written {defines : List (String × String)} (h : ∀ d ∈ defines, IsProper d) :
    table (defines.map written) = .ok (Table.ofList (defines.map binding)) := by
  have hitems : (defines.map written).mapM item = .ok (defines.map binding) := by
    induction defines with
    | nil => rfl
    | cons d defines ih =>
      obtain ⟨hd, hdefines⟩ := List.forall_mem_cons.mp h
      rw [List.map_cons, mapM_cons, item_written hd, ih hdefines]
      rfl
  rw [table, hitems]
  rfl

end Defines

namespace Bindings

/-- The entries whose keys are texts, by these. -/
def named (entries : List (Value × Value)) : List (String × Value) :=
  entries.filterMap fun e =>
    match e.1 with
    | .text name => .some (name, e.2)
    | _ => .none

theorem table_eq (entries : List (Value × Value)) :
    table entries = Table.ofList (named entries) := rfl

/-- **Bindings that are written as JSON are loaded as they were**, without numbers among them. -/
theorem ofContents_compact {path : String} {j : Json} {entries : List (Value × Value)}
    (hpath : isJson path = true) (hj : j.isPlain = true) (hentries : j.toValue = .dict entries) :
    ofContents path (.ok j.compact.toUTF8.toList) = .ok entries := by
  have hread : Json.read (Text.Utf8.decode j.compact.toUTF8.toList) = .ok j := by
    rw [Text.Utf8.decode_encode, Json.read_compact hj]
  have hvalue : reader .standard path j.compact.toUTF8.toList = .ok (.dict entries) := by
    simp only [reader, hpath, if_true, Readers.standard, Readers.readJson, hread,
      Json.faults_of_isPlain j hj, List.isEmpty_nil, hentries]
  dsimp only [ofContents]
  rw [hvalue, Except.map, bound, hpath]
  rfl

end Bindings

/-- **Of two sets of bindings the second comes first**, where it binds a name. -/
theorem get?_mergeBindings (bindings : Table Value) {extra : Table Value} (h : extra.names.Nodup)
    (name : String) :
    (mergeBindings bindings extra).get? name = (extra.get? name).or (bindings.get? name) := by
  rw [mergeBindings, Table.get?_insertAll, Table.last?_entries extra h]

end Lockstep
