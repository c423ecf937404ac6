import TypingTrainer.CommandLine

namespace TypingTrainer

open Json (of_bind_ok)
open Std (LawfulEqCmp)

namespace Files

variable {fs gs : Files} {place q r : List String} {path : String} {c : Content}

theorem get?_set (fs : Files) (place q : List String) (e : Entry) :
    (fs.set place e).entries.get? q = if q = place then some e else fs.entries.get? q := by
  rw [set, SortedMap.get?_insert]
  simp only [LawfulEqCmp.compare_eq_iff_eq]

theorem isFolder_set_file (h : fs.isFolder place = false) (c : Content) (q : List String) :
    (fs.set place (.file c)).isFolder q = fs.isFolder q := by
  by_cases hq : q = place
  · subst hq
    rw [h]
    simp only [isFolder, Bool.or_eq_false_iff] at h ⊢
    exact ⟨h.1, by rw [get?_set, if_pos rfl]⟩
  · rw [isFolder, get?_set, if_neg hq]
    rfl

theorem enter_set_file (h : fs.isFolder place = false) (c : Content) {x : Path.Component}
    (henter : fs.enter q x = .ok r) : (fs.set place (.file c)).enter q x = .ok r := by
  cases hq : fs.isFolder q with
  | true =>
      rw [← henter]
      simp only [enter, isFolder_set_file h, hq]
      rfl
  | false =>
      simp only [enter, hq, Bool.false_eq_true, if_false] at henter
      split at henter <;> exact nomatch henter

/-- Every step of a path leads through a folder, and so on past the new file as before. -/
theorem steps_set_file (h : fs.isFolder place = false) (c : Content) {xs : List Path.Component}
    (hsteps : xs.foldlM fs.enter q = .ok r) :
    xs.foldlM (fs.set place (.file c)).enter q = .ok r := by
  induction xs generalizing q with
  | nil => exact hsteps
  | cons x xs ih =>
      rw [List.foldlM_cons] at hsteps ⊢
      obtain ⟨next, henter, hrest⟩ := of_bind_ok hsteps
      rw [enter_set_file h c henter]
      exact ih hrest

theorem resolve_set_file (h : fs.isFolder place = false) (c : Content)
    (hresolve : fs.resolve path = .ok q) : (fs.set place (.file c)).resolve path = .ok q := by
  rw [resolve] at hresolve ⊢
  split at hresolve
  · exact nomatch hresolve
  · next hpath =>
    rw [if_neg hpath]
    exact steps_set_file h c hresolve

theorem openFile_eq_ok (h : fs.openFile path = .ok place) : fs.resolve path = .ok place ∧
    fs.isFolder place = false ∧ Path.endsInSlash path = false := by
  obtain ⟨q, hresolve, hopen⟩ := of_bind_ok h
  cases hrefused : fs.isFolder q || Path.endsInSlash path with
  | true =>
      rw [hrefused, if_pos rfl] at hopen
      exact nomatch hopen
  | false =>
      rw [hrefused] at hopen
      obtain rfl : q = place := Except.ok.inj hopen
      exact ⟨hresolve, Bool.or_eq_false_iff.1 hrefused⟩

theorem read_write (h : fs.write path c = .ok gs) : gs.read path = .ok c := by
  obtain ⟨place, hopen, hset⟩ := of_bind_ok h
  obtain rfl : fs.set place (.file c) = gs := Except.ok.inj hset
  obtain ⟨hresolve, hfolder, hslash⟩ := openFile_eq_ok hopen
  have hkept : (fs.set place (.file c)).isFolder place = false := by
    rw [isFolder_set_file hfolder, hfolder]
  simp only [read, resolve_set_file hfolder c hresolve, bind, Except.bind, hkept, get?_set, hslash]
  rfl

end Files

theorem Config.load_text (c : Config) : Config.load (some (Text.toUtf8 c.text)) = c := by
  obtain ⟨preset, language⟩ := c
  cases preset <;> cases language <;> decide +kernel

/-- The next start of the program finds the configuration that was saved. -/
theorem CommandLine.loadConfig_saveConfig {fs gs : Files} {path : String} {c : Config}
    (h : saveConfig fs path c = .ok gs) : loadConfig gs path = c := by
  obtain ⟨made, -, hwrite⟩ := of_bind_ok h
  have hread : gs.readBytes path = .ok (Text.toUtf8 c.text) := by
    rw [Files.readBytes, Files.read_write hwrite]
    rfl
  rw [loadConfig, hread]
  exact Config.load_text c

end TypingTrainer
