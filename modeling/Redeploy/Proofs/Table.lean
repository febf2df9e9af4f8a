import Redeploy.Table

/-
  Tables that are changed more than once.

  Key definitions include:
    * `Table.eraseAll`
    * `Table.Lists`

  Main results:
    * `Table.get?_eraseAll`
    * `Table.get?_foldl_insert`
    * `Table.Lists.mem_iff`
    * `Table.Lists.pairwise`
    * `Table.lists_values`, `Table.lists_filter`
-/

------------------------------------------------------------
-- Repeated Changes
------------------------------------------------------------

namespace Redeploy

namespace Table

variable {κ ν : Type} [Ord κ]
variable [Std.TransOrd κ] [Std.LawfulEqOrd κ]
variable [DecidableEq κ]

@[simp]
theorem get?_insert_self
    (t : Table κ ν)
    (k : κ)
    (v : ν) :
    (t.insert k v).get? k = some v := by
  rw [get?_insert, if_pos rfl]

omit [Std.TransOrd κ] in
@[simp]
theorem get?_erase_self
    (t : Table κ ν)
    (k : κ) :
    (t.erase k).get? k = none := by
  rw [get?_erase, if_pos rfl]

theorem erase_of_absent
    {t : Table κ ν}
    {k : κ}
    (hAbsent : t.get? k = none) :
    t.erase k = t := by
  apply ext_get?
  intro k'
  rw [get?_erase]
  split
  next hKey => rw [hKey, hAbsent]
  next => rfl

/- Remove some keys, one after the other. -/
def eraseAll
    (t : Table κ ν)
    (keys : List κ) : Table κ ν :=
  keys.foldl (·.erase ·) t

omit [Std.TransOrd κ] in
theorem get?_eraseAll
    (t : Table κ ν)
    (keys : List κ)
    (k : κ) :
    (t.eraseAll keys).get? k =
      if k ∈ keys then none else t.get? k := by
  induction keys generalizing t with
  | nil => simp [eraseAll]
  | cons k' rest ih =>
      have hStep :
          t.eraseAll (k' :: rest) =
            (t.erase k').eraseAll rest :=
        rfl
      rw [hStep, ih, get?_erase]
      by_cases hRest : k ∈ rest
      · simp [hRest]
      · by_cases hKey : k = k' <;> simp [hRest, hKey]

/- Of the values that are inserted under a key, the last one
   stays. -/
theorem get?_foldl_insert
    (keyOf : ν → κ)
    (values : List ν)
    (t : Table κ ν)
    (k : κ) :
    (values.foldl (fun t v => t.insert (keyOf v) v) t).get? k =
      ((values.filter (keyOf · = k)).getLast?).or
        (t.get? k) := by
  induction values generalizing t with
  | nil => simp
  | cons v rest ih =>
      rw [List.foldl_cons, ih, get?_insert, List.filter_cons]
      by_cases hKey : keyOf v = k
      · rw [if_pos hKey.symm, if_pos (by simp [hKey]),
          List.getLast?_cons]
        cases (rest.filter (keyOf · = k)).getLast? <;> rfl
      · rw [if_neg (Ne.symm hKey), if_neg (by simp [hKey])]

end Table

end Redeploy

------------------------------------------------------------
-- Entries
------------------------------------------------------------

namespace Redeploy

namespace Table

variable {κ ν : Type} [Ord κ]

theorem contains_eq_false_iff
    {t : Table κ ν}
    {k : κ} :
    t.contains k = false ↔ t.get? k = none := by
  simp [contains]

theorem contains_iff
    {t : Table κ ν}
    {k : κ} :
    t.contains k = true ↔ ∃ v, t.get? k = some v :=
  Option.isSome_iff_exists

end Table

end Redeploy

------------------------------------------------------------
-- Listings
------------------------------------------------------------

namespace Redeploy

namespace Table

variable {κ ν : Type} [Ord κ]
variable {t : Table κ ν}
variable {chosen : κ → ν → Prop}

/- Whether some values are those of the entries that a
   condition holds of, each listed once, by ascending key. -/
def Lists
    (t : Table κ ν)
    (chosen : κ → ν → Prop)
    (values : List ν) : Prop :=
  ∃ entries,
    values = entries.map (·.2) ∧
    Ascending entries ∧
    ∀ k v,
      (k, v) ∈ entries ↔ t.get? k = some v ∧ chosen k v

theorem Lists.mem_iff
    {values : List ν}
    (h : t.Lists chosen values)
    {v : ν} :
    v ∈ values ↔ ∃ k, t.get? k = some v ∧ chosen k v := by
  rcases h with ⟨entries, rfl, -, hEntries⟩
  rw [List.mem_map]
  constructor
  · rintro ⟨⟨k, v⟩, hEntry, rfl⟩
    exact ⟨k, (hEntries k v).mp hEntry⟩
  · rintro ⟨k, hChosen⟩
    exact ⟨(k, v), (hEntries k v).mpr hChosen, rfl⟩

/- Values that know their keys are listed in the order of
   these. -/
theorem Lists.pairwise
    {values : List ν}
    {keyOf : ν → κ}
    (h : t.Lists chosen values)
    (hKeys : ∀ k v, t.get? k = some v → keyOf v = k) :
    values.Pairwise
      (fun v v' => compare (keyOf v) (keyOf v') = .lt) := by
  rcases h with ⟨entries, rfl, hAscending, hEntries⟩
  rw [List.pairwise_map]
  apply hAscending.imp_of_mem
  intro e e' hEntry hEntry' hLess
  rw [hKeys e.1 e.2 ((hEntries e.1 e.2).mp hEntry).1,
    hKeys e'.1 e'.2 ((hEntries e'.1 e'.2).mp hEntry').1]
  exact hLess

theorem lists_values
    [Std.LawfulEqOrd κ]
    (t : Table κ ν) :
    t.Lists (fun _ _ => True) t.values := by
  refine ⟨t.toList, rfl, t.ascending, ?_⟩
  intro k v
  rw [and_true, get?_eq_some_iff]

theorem mem_values_iff
    [Std.LawfulEqOrd κ]
    {v : ν} :
    v ∈ t.values ↔ ∃ k, t.get? k = some v := by
  simpa only [and_true] using t.lists_values.mem_iff

theorem lists_filter
    [Std.LawfulEqOrd κ]
    {isChosen : κ × ν → Bool}
    (hChosen : ∀ k v, isChosen (k, v) = true ↔ chosen k v) :
    t.Lists chosen
      ((t.toList.filter isChosen).map (·.2)) := by
  refine ⟨t.toList.filter isChosen, rfl, ?_, ?_⟩
  · exact t.ascending.filter isChosen
  · intro k v
    rw [List.mem_filter, hChosen, get?_eq_some_iff]

end Table

end Redeploy
