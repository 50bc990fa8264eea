/-
What is written can be read: where a file is written in a folder, the same path
leads to it afterwards (`read_of_write`).

Making the folders on the way puts entries where there were none, so what was a
folder before still is one (`IsFolder.put`). Walking along the names again
therefore comes to where making them came to (`walkFrom_of_makeFrom`), by
induction on the names.
-/
import Lockstep.Folder

namespace Lockstep.Folder

variable {f g made : Folder} {way way' reached reached' : List String} {e : Entry}
  {bytes : List UInt8}

/-! ## Entries -/

/-- An entry lies where it was put. -/
theorem entry_put_self (f : Folder) (way : List String) (e : Entry) :
    Folder.entry? (f.put way e) way = .some e := by
  have hnone : (f.entries.filter (·.1 != way)).find? (·.1 == way) = .none := by
    rw [List.find?_eq_none]
    intro e' he'
    have hne := (List.mem_filter.mp he').2
    simpa using hne
  unfold entry? put
  rw [List.find?_append, hnone]
  simp

/-- A folder lies at the end of the way. -/
def IsFolder (f : Folder) (way : List String) : Prop :=
  f.entry? way = .some .directory

/-- A way that leads to an entry, or on to others, still does so when something is put elsewhere. -/
theorem any_isPrefixOf_put (e : Entry)
    (h : f.entries.any (fun a => way.isPrefixOf a.1) = true) :
    (f.put way' e).entries.any (fun a => way.isPrefixOf a.1) = true := by
  obtain ⟨a, ha, hprefix⟩ := List.any_eq_true.mp h
  rw [List.any_eq_true]
  by_cases hsame : a.1 = way'
  · refine ⟨(way', e), by simp [put], ?_⟩
    rw [hsame] at hprefix
    exact hprefix
  · refine ⟨a, ?_, hprefix⟩
    rw [put, List.mem_append, List.mem_filter]
    exact .inl ⟨ha, by simpa using hsame⟩

/-- What is put elsewhere leaves a folder a folder: it may be one because of its own entry, or
because the ways of other entries lead through it. -/
theorem IsFolder.put (h : f.IsFolder way) (hne : way ≠ way') (e : Entry) :
    (f.put way' e).IsFolder way := by
  have hfilter : (f.entries.filter (·.1 != way')).find? (·.1 == way) =
      f.entries.find? (·.1 == way) := by
    rw [List.find?_filter]
    congr 1
    funext a
    by_cases ha : a.1 = way
    · simp [ha, hne]
    · simp [ha]
  have hother : (f.put way' e).entries.find? (·.1 == way) = f.entries.find? (·.1 == way) := by
    have hnot : ¬ way' = way := fun h => hne h.symm
    rw [Folder.put, List.find?_append, hfilter]
    simp [hnot]
  unfold IsFolder entry? at h ⊢
  rw [hother]
  cases hfind : f.entries.find? (·.1 == way) with
  | some e' =>
    rw [hfind] at h
    exact h
  | none =>
    rw [hfind] at h
    by_cases hempty : way.isEmpty = true
    · simp [hempty]
    · have hany : f.entries.any (fun a => way.isPrefixOf a.1) = true := by
        simpa [hempty] using h
      simp only [any_isPrefixOf_put e hany, Bool.or_true, if_true]

/-! ## Ways -/

@[simp] theorem work?_put (f : Folder) (way : List String) (e : Entry) :
    (f.put way e).work? = f.work? := rfl

theorem back?_congr (h : g.work? = f.work?) (way : List String) : g.back? way = f.back? way := by
  rw [back?, back?, h]

theorem walkFrom_back (h : f.back? reached = .some way) (rest : List String) :
    f.walkFrom reached (".." :: rest) = f.walkFrom way rest := by
  simp only [walkFrom, if_true, h]

theorem walkFrom_folder {name : String} (hname : name ≠ "..")
    (h : f.entry? (reached ++ [name]) = .some .directory) (rest : List String) :
    f.walkFrom reached (name :: rest) = f.walkFrom (reached ++ [name]) rest := by
  simp only [walkFrom, if_neg hname, h]

theorem walkFrom_file {name : String} (hname : name ≠ "..")
    (h : f.entry? (reached ++ [name]) = .some (.file bytes)) :
    f.walkFrom reached [name] = .ok (reached ++ [name], .file bytes) := by
  simp only [walkFrom, if_neg hname, h, List.isEmpty_nil, if_true]

/-- A step of making folders: back, into a new folder, or into one that is there. -/
theorem makeFrom_cons {name : String} {names : List String}
    (hmade : f.makeFrom reached (name :: names) = .ok (made, reached')) :
    (name = ".." ∧ ∃ way, f.back? reached = .some way ∧
      f.makeFrom way names = .ok (made, reached')) ∨
    (name ≠ ".." ∧ f.entry? (reached ++ [name]) = .none ∧
      (f.put (reached ++ [name]) .directory).makeFrom (reached ++ [name]) names =
        .ok (made, reached')) ∨
    (name ≠ ".." ∧ f.IsFolder (reached ++ [name]) ∧
      f.makeFrom (reached ++ [name]) names = .ok (made, reached')) := by
  rw [makeFrom] at hmade
  split at hmade
  · next hup =>
    split at hmade
    · next way hway => exact .inl ⟨hup, way, hway, hmade⟩
    · cases hmade
  · next hup =>
    simp only at hmade
    split at hmade
    · next hnone => exact .inr (.inl ⟨hup, hnone, hmade⟩)
    · next hdir => exact .inr (.inr ⟨hup, hdir, hmade⟩)
    · cases hmade

/-- The command works where it worked before folders were made. -/
theorem work?_makeFrom {names : List String}
    (hmade : f.makeFrom reached names = .ok (made, reached')) : made.work? = f.work? := by
  induction names generalizing f reached with
  | nil =>
    cases hmade
    rfl
  | cons name names ih =>
    rcases makeFrom_cons hmade with ⟨-, way, -, h⟩ | ⟨-, -, h⟩ | ⟨-, -, h⟩
    · exact ih h
    · exact (ih h).trans (work?_put f _ _)
    · exact ih h

/-- Making folders leaves what was a folder one. -/
theorem IsFolder.makeFrom {names : List String} (h : f.IsFolder way)
    (hmade : f.makeFrom reached names = .ok (made, reached')) : made.IsFolder way := by
  induction names generalizing f reached with
  | nil =>
    cases hmade
    exact h
  | cons name names ih =>
    rcases makeFrom_cons hmade with ⟨-, _, -, hmade⟩ | ⟨-, hnone, hmade⟩ | ⟨-, -, hmade⟩
    · exact ih h hmade
    · have hne : way ≠ reached ++ [name] := by
        rintro rfl
        rw [IsFolder, hnone] at h
        cases h
      exact ih (h.put hne .directory) hmade
    · exact ih h hmade

/-- **The names along which folders were made lead to where the making came to**, in any folder
where these are folders still, whatever names follow. -/
theorem walkFrom_of_makeFrom {names : List String}
    (hmade : f.makeFrom reached names = .ok (made, reached')) (hwork : g.work? = f.work?)
    (hg : ∀ way, made.IsFolder way → g.IsFolder way) (rest : List String) :
    g.walkFrom reached (names ++ rest) = g.walkFrom reached' rest := by
  induction names generalizing f reached with
  | nil =>
    cases hmade
    rfl
  | cons name names ih =>
    rw [List.cons_append]
    rcases makeFrom_cons hmade with ⟨rfl, way, hway, hmade⟩ | ⟨hup, -, hmade⟩ | ⟨hup, hdir, hmade⟩
    · rw [walkFrom_back ((back?_congr hwork _).trans hway)]
      exact ih hmade hwork
    · have hfolder := hg _ (IsFolder.makeFrom (entry_put_self f _ _) hmade)
      rw [walkFrom_folder hup hfolder]
      exact ih hmade hwork
    · have hfolder := hg _ (IsFolder.makeFrom hdir hmade)
      rw [walkFrom_folder hup hfolder]
      exact ih hmade hwork

/-! ## Writing -/

/-- Where a file is written: the folders on the way to it are made, and it is put behind them, where
no folder lies. -/
theorem write_eq_ok {path place : String} (h : f.write path bytes = .ok (g, place)) :
    ∃ start names last made reached, f.start? path = .some start ∧
      Path.parts path = names ++ [last] ∧ last ≠ ".." ∧
      f.makeFrom start names = .ok (made, reached) ∧ ¬ made.IsFolder (reached ++ [last]) ∧
      g = made.put (reached ++ [last]) (.file bytes) ∧
      place = made.path (reached ++ [last]) := by
  unfold write at h
  split at h
  · cases h
  · cases h
  · next start last hstart hlast =>
    have hne : Path.parts path ≠ [] := by
      intro hempty
      rw [hempty] at hlast
      cases hlast
    rw [List.getLast?_eq_some_getLast hne, Option.some.injEq] at hlast
    have hparts : Path.parts path = (Path.parts path).dropLast ++ [last] := by
      rw [← hlast, List.dropLast_concat_getLast]
    split at h
    · cases h
    · next made reached hmade =>
      simp only at h
      split at h
      · cases h
      · next hup =>
        split at h
        · cases h
        · next hnot =>
          cases h
          exact ⟨start, _, last, made, reached, hstart, hparts, hup, hmade, hnot, rfl, rfl⟩

/-- **What is written can be read** along the same path. -/
theorem read_of_write {path place : String} (h : f.write path bytes = .ok (g, place)) :
    g.read path = .ok bytes := by
  obtain ⟨start, names, last, made, reached, hstart, hparts, hup, hmade, hnot, rfl, -⟩ :=
    write_eq_ok h
  have hwork : (made.put (reached ++ [last]) (.file bytes)).work? = f.work? :=
    (work?_put made _ _).trans (work?_makeFrom hmade)
  -- No folder lies where the file is put, so all folders made stay folders.
  have hkept : ∀ way, made.IsFolder way →
      (made.put (reached ++ [last]) (.file bytes)).IsFolder way := by
    intro way hway
    refine hway.put ?_ _
    rintro rfl
    exact hnot hway
  have hwalk := walkFrom_of_makeFrom hmade hwork hkept [last]
  rw [← hparts, walkFrom_file hup (entry_put_self made _ _)] at hwalk
  have hstart' : (made.put (reached ++ [last]) (.file bytes)).start? path = .some start := by
    rw [← hstart, start?, start?, hwork]
  rw [read, walk, hstart']
  simp only [hwalk]

end Lockstep.Folder
