import Mathlib.Data.List.Nodup
import SuiteLint.KeyedList

/-!
# Laws of keyed lists

A keyed list is seen through `get?`: what `set` and `erase` do to it, and that in a list made by
`ofList` the last value of a key counts (`get?_ofList`). A key stands there only once
(`nodup_keys_ofList`), so such a list has one entry for each key that `get?` finds
(`get?_eq_some_iff_mem`).
-/

namespace SuiteLint.KeyedList

variable {β : Type} {key other : String} {value : β} {entries : List (String × β)}

theorem get?_cons (entry : String × β) (rest : List (String × β)) :
    get? key (entry :: rest) = if entry.1 == key then some entry.2 else get? key rest := rfl

theorem get?_set (key other : String) (value : β) (entries : List (String × β)) :
    get? other (set key value entries) =
      if key = other then some value else get? other entries := by
  induction entries with
  | nil => simp [set, get?]
  | cons entry rest ih =>
      by_cases hkey : entry.1 = key
      · subst hkey
        by_cases hother : entry.1 = other <;> simp [set, get?, hother]
      · by_cases hother : entry.1 = other
        · subst hother
          simp [set, get?, hkey, Ne.symm hkey]
        · simp [set, get?, hkey, hother, ih]

theorem get?_erase (key other : String) (entries : List (String × β)) :
    get? other (erase key entries) = if key = other then none else get? other entries := by
  induction entries with
  | nil => simp [erase, get?]
  | cons entry rest ih =>
      rw [erase] at ih ⊢
      by_cases hkey : entry.1 = key
      · subst hkey
        rw [List.filter_cons_of_neg (by simp), ih, get?_cons]
        by_cases hother : entry.1 = other <;> simp [hother]
      · rw [List.filter_cons_of_pos (by simpa using hkey), get?_cons, get?_cons, ih]
        by_cases hother : entry.1 = other
        · subst hother
          simp [Ne.symm hkey]
        · simp [hother]

theorem get?_foldl_set (entries acc : List (String × β)) :
    get? key (entries.foldl (fun acc entry => set entry.1 entry.2 acc) acc) =
      ((entries.reverse.find? fun entry => entry.1 == key).map Prod.snd).or (get? key acc) := by
  induction entries generalizing acc with
  | nil => rfl
  | cons entry rest ih =>
      rw [List.foldl_cons, ih, get?_set, List.reverse_cons, List.find?_append]
      cases rest.reverse.find? fun entry => entry.1 == key with
      | some found => rfl
      | none => by_cases hkey : entry.1 = key <;> simp [hkey]

/-- Of several values of a key the last one counts. -/
theorem get?_ofList (key : String) (entries : List (String × β)) :
    get? key (ofList entries) =
      (entries.reverse.find? fun entry => entry.1 == key).map Prod.snd := by
  rw [ofList, get?_foldl_set]
  simp [get?]

theorem mem_keys_set :
    other ∈ (set key value entries).map Prod.fst ↔ other = key ∨ other ∈ entries.map Prod.fst := by
  induction entries with
  | nil => simp [set]
  | cons entry rest ih =>
      by_cases hkey : entry.1 = key
      · simp [set, hkey]
      · simp only [set, hkey, beq_iff_eq, if_false, List.map_cons, List.mem_cons, ih]
        tauto

theorem nodup_keys_set (h : (entries.map Prod.fst).Nodup) :
    ((set key value entries).map Prod.fst).Nodup := by
  induction entries with
  | nil => simp [set]
  | cons entry rest ih =>
      rw [List.map_cons, List.nodup_cons] at h
      by_cases hkey : entry.1 = key
      · subst hkey
        simpa [set] using h
      · have hset : set key value (entry :: rest) = entry :: set key value rest := by
          simp [set, hkey]
        rw [hset, List.map_cons, List.nodup_cons, mem_keys_set, not_or]
        exact ⟨⟨hkey, h.1⟩, ih h.2⟩

theorem nodup_keys_ofList (entries : List (String × β)) :
    ((ofList entries).map Prod.fst).Nodup := by
  have hfold : ∀ acc : List (String × β), (acc.map Prod.fst).Nodup →
      ((entries.foldl (fun acc entry => set entry.1 entry.2 acc) acc).map Prod.fst).Nodup := by
    induction entries with
    | nil => exact fun _ h => h
    | cons entry rest ih => exact fun acc h => ih _ (nodup_keys_set h)
  exact hfold [] List.nodup_nil

theorem get?_eq_some_iff_mem (h : (entries.map Prod.fst).Nodup) :
    get? key entries = some value ↔ (key, value) ∈ entries := by
  induction entries with
  | nil => simp [get?]
  | cons entry rest ih =>
      rw [List.map_cons, List.nodup_cons] at h
      rw [get?_cons, List.mem_cons]
      by_cases hkey : entry.1 = key
      · subst hkey
        have hrest : (entry.1, value) ∉ rest := fun hmem =>
          h.1 (List.mem_map.mpr ⟨_, hmem, rfl⟩)
        simp [hrest, Prod.ext_iff, eq_comm]
      · have hne : (key, value) ≠ entry := by
          rintro rfl
          exact hkey rfl
        simp [hkey, hne, ih h.2]

theorem get?_eq_none_iff : get? key entries = none ↔ key ∉ entries.map Prod.fst := by
  induction entries with
  | nil => simp [get?]
  | cons entry rest ih =>
      rw [get?_cons, List.map_cons, List.mem_cons, not_or]
      by_cases hkey : entry.1 = key
      · simp [hkey]
      · simp [hkey, Ne.symm hkey, ih]

theorem erase_of_get?_eq_none (h : get? key entries = none) : erase key entries = entries := by
  refine List.filter_eq_self.mpr fun entry hentry => ?_
  rw [bne_iff_ne]
  rintro rfl
  exact get?_eq_none_iff.mp h (List.mem_map_of_mem hentry)

end SuiteLint.KeyedList
