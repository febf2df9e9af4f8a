/-
  Finite maps listed in key order.

  Key definitions include:
    * `Table`
    * `Table.get?`
    * `Table.insert`
    * `Table.erase`
    * `Table.ofList`

  The entries are kept strictly ascending by key, so a table
  has one representation: two tables that answer every
  lookup alike are equal (`Table.ext_get?`), and listing a
  table never depends on the order of its insertions.
-/

------------------------------------------------------------
-- Entry Lists
------------------------------------------------------------

namespace Redeploy

namespace Table

variable {κ ν : Type} [Ord κ]

/- Strictly ascending by key. -/
def Ascending
    (entries : List (κ × ν)) : Prop :=
  entries.Pairwise
    (fun a b => compare a.1 b.1 = .lt)

/- The value of the first entry under a key. -/
def find?
    (k : κ) : List (κ × ν) → Option ν
  | [] => none
  | (k', v) :: rest =>
      if compare k k' = .eq then some v
      else find? k rest

/- Put an entry in its place, replacing one of the same key. -/
def place
    (k : κ)
    (v : ν) : List (κ × ν) → List (κ × ν)
  | [] => [(k, v)]
  | (k', v') :: rest =>
      match compare k k' with
      | .lt => (k, v) :: (k', v') :: rest
      | .eq => (k, v) :: rest
      | .gt => (k', v') :: place k v rest

/- Drop the entries under a key. -/
def drop
    (k : κ)
    (entries : List (κ × ν)) : List (κ × ν) :=
  entries.filter (fun e => compare k e.1 != .eq)

theorem mem_place
    {k : κ}
    {v : ν}
    {e : κ × ν}
    {entries : List (κ × ν)}
    (h : e ∈ place k v entries) :
    e = (k, v) ∨ e ∈ entries := by
  induction entries with
  | nil => simpa [place] using h
  | cons head rest ih =>
      rw [place] at h
      split at h <;> grind

theorem ascending_place
    [Std.TransOrd κ]
    (k : κ)
    (v : ν)
    {entries : List (κ × ν)}
    (h : Ascending entries) :
    Ascending (place k v entries) := by
  induction entries with
  | nil => simp [place, Ascending]
  | cons head rest ih =>
      obtain ⟨k', v'⟩ := head
      obtain ⟨hHead, hRest⟩ := List.pairwise_cons.mp h
      rw [Ascending, place]
      split
      next hlt =>
        refine h.cons fun e he => ?_
        rcases List.mem_cons.mp he with rfl | he
        · exact hlt
        · exact Std.TransCmp.lt_trans hlt (hHead e he)
      next heq =>
        exact hRest.cons fun e he =>
          Std.TransCmp.lt_of_eq_of_lt heq (hHead e he)
      next hgt =>
        refine (ih hRest).cons fun e he => ?_
        rcases mem_place he with rfl | he
        · exact Std.OrientedCmp.gt_iff_lt.mp hgt
        · exact hHead e he

theorem ascending_drop
    (k : κ)
    {entries : List (κ × ν)}
    (h : Ascending entries) :
    Ascending (drop k entries) :=
  List.Pairwise.filter _ h

end Table

end Redeploy

------------------------------------------------------------
-- Tables
------------------------------------------------------------

namespace Redeploy

/- A finite map, listed by ascending key. -/
@[ext]
structure Table
    (κ ν : Type)
    [Ord κ] where
  entries : List (κ × ν)
  ascending : Table.Ascending entries
deriving DecidableEq

namespace Table

variable {κ ν : Type} [Ord κ]

/- The table without entries. -/
def empty : Table κ ν where
  entries := []
  ascending := List.Pairwise.nil

instance : Inhabited (Table κ ν) := ⟨empty⟩

/- The value under a key, if there is one. -/
def get?
    (t : Table κ ν)
    (k : κ) : Option ν :=
  find? k t.entries

/- Whether a key has a value. -/
def contains
    (t : Table κ ν)
    (k : κ) : Bool :=
  (t.get? k).isSome

/- Set the value of a key. -/
def insert
    [Std.TransOrd κ]
    (t : Table κ ν)
    (k : κ)
    (v : ν) : Table κ ν where
  entries := place k v t.entries
  ascending := ascending_place k v t.ascending

/- Remove a key. -/
def erase
    (t : Table κ ν)
    (k : κ) : Table κ ν where
  entries := drop k t.entries
  ascending := ascending_drop k t.ascending

/- Insert every pair, from first to last. -/
def ofList
    [Std.TransOrd κ]
    (pairs : List (κ × ν)) : Table κ ν :=
  pairs.foldl (fun t e => t.insert e.1 e.2) empty

/- The entries, ascending by key. -/
def toList
    (t : Table κ ν) : List (κ × ν) :=
  t.entries

/- The keys, ascending. -/
def keys
    (t : Table κ ν) : List κ :=
  t.entries.map (·.1)

/- The values, by ascending key. -/
def values
    (t : Table κ ν) : List ν :=
  t.entries.map (·.2)

/- The number of keys. -/
def size
    (t : Table κ ν) : Nat :=
  t.entries.length

/- Whether no key has a value. -/
def isEmpty
    (t : Table κ ν) : Bool :=
  t.entries.isEmpty

end Table

end Redeploy

------------------------------------------------------------
-- Lookup
------------------------------------------------------------

namespace Redeploy

namespace Table

variable {κ ν : Type} [Ord κ]

@[simp]
theorem get?_empty
    (k : κ) :
    (empty : Table κ ν).get? k = none :=
  rfl

variable [Std.LawfulEqOrd κ]

theorem find?_eq_some_iff
    {k : κ}
    {v : ν}
    {entries : List (κ × ν)}
    (h : Ascending entries) :
    find? k entries = some v ↔ (k, v) ∈ entries := by
  induction entries with
  | nil => simp [find?]
  | cons head rest ih =>
      obtain ⟨k', v'⟩ := head
      obtain ⟨hHead, hRest⟩ := List.pairwise_cons.mp h
      rw [find?]
      split
      next heq =>
        have hk : k = k' := Std.compare_eq_iff_eq.mp heq
        subst hk
        constructor
        · intro hv
          cases hv
          exact List.mem_cons_self ..
        · intro hm
          rcases List.mem_cons.mp hm with hm | hm
          · cases hm; rfl
          · have := hHead _ hm
            simp at this
      next hne =>
        rw [ih hRest]
        constructor
        · exact List.mem_cons_of_mem _
        · intro hm
          rcases List.mem_cons.mp hm with hm | hm
          · cases hm; simp at hne
          · exact hm

theorem get?_eq_some_iff
    {t : Table κ ν}
    {k : κ}
    {v : ν} :
    t.get? k = some v ↔ (k, v) ∈ t.toList :=
  find?_eq_some_iff t.ascending

variable [DecidableEq κ]

theorem find?_place
    (k k' : κ)
    (v : ν)
    (entries : List (κ × ν)) :
    find? k' (place k v entries) =
      if k' = k then some v else find? k' entries := by
  induction entries with
  | nil => simp [place, find?]
  | cons head rest ih =>
      obtain ⟨k₀, v₀⟩ := head
      rw [place]
      split
      next hlt =>
        by_cases h : k' = k
        · subst h; simp [find?]
        · simp [find?, h]
      next heq =>
        have hk : k = k₀ := Std.compare_eq_iff_eq.mp heq
        subst hk
        by_cases h : k' = k
        · subst h; simp [find?]
        · simp [find?, h]
      next hgt =>
        by_cases h : k' = k
        · subst h
          have : ¬ k' = k₀ := by
            intro hk
            subst hk
            simp at hgt
          simp [find?, ih, this]
        · simp [find?, ih, h]

theorem find?_drop
    (k k' : κ)
    (entries : List (κ × ν)) :
    find? k' (drop k entries) =
      if k' = k then none else find? k' entries := by
  induction entries with
  | nil => simp [drop, find?]
  | cons head rest ih =>
      obtain ⟨k₀, v₀⟩ := head
      have hDrop :
          drop k ((k₀, v₀) :: rest) =
            if k = k₀ then drop k rest
            else (k₀, v₀) :: drop k rest := by
        by_cases h : k = k₀
        · subst h; simp [drop]
        · simp [drop, h]
      rw [hDrop]
      by_cases h : k = k₀
      · subst h
        simp only [↓reduceIte, ih, find?,
          Std.compare_eq_iff_eq]
        split <;> rfl
      · by_cases h' : k' = k
        · subst h'
          simp [h, find?, ih]
        · simp [h, h', find?, ih]

theorem get?_insert
    [Std.TransOrd κ]
    (t : Table κ ν)
    (k k' : κ)
    (v : ν) :
    (t.insert k v).get? k' =
      if k' = k then some v else t.get? k' :=
  find?_place k k' v t.entries

theorem get?_erase
    (t : Table κ ν)
    (k k' : κ) :
    (t.erase k).get? k' =
      if k' = k then none else t.get? k' :=
  find?_drop k k' t.entries

omit [DecidableEq κ] in
private theorem eq_of_ascending
    [Std.TransOrd κ]
    {xs ys : List (κ × ν)}
    (hx : Ascending xs)
    (hy : Ascending ys)
    (h : ∀ e, e ∈ xs ↔ e ∈ ys) :
    xs = ys := by
  induction xs generalizing ys with
  | nil =>
      cases ys with
      | nil => rfl
      | cons y ys => simpa using h y
  | cons x xs ih =>
      cases ys with
      | nil => simpa using h x
      | cons y ys =>
          obtain ⟨hX, hXs⟩ := List.pairwise_cons.mp hx
          obtain ⟨hY, hYs⟩ := List.pairwise_cons.mp hy
          have hxy : x = y := by
            rcases List.mem_cons.mp
              ((h x).mp (List.mem_cons_self ..)) with e | hxm
            · exact e
            rcases List.mem_cons.mp
              ((h y).mpr (List.mem_cons_self ..)) with e | hym
            · exact e.symm
            have := Std.TransCmp.lt_trans
              (hY _ hxm) (hX _ hym)
            simp at this
          subst hxy
          refine congrArg (x :: ·)
            (ih hXs hYs fun e => ?_)
          have hne :
              ∀ zs : List (κ × ν),
                (∀ a ∈ zs, compare x.1 a.1 = .lt) →
                x ∉ zs := by
            intro zs hz hm
            have := hz _ hm
            simp at this
          have he := h e
          simp only [List.mem_cons] at he
          constructor
          · intro hm
            rcases he.mp (.inr hm) with rfl | hm'
            · exact absurd hm (hne _ hX)
            · exact hm'
          · intro hm
            rcases he.mpr (.inr hm) with rfl | hm'
            · exact absurd hm (hne _ hY)
            · exact hm'

/-
  A table is determined by its lookups.
-/
omit [DecidableEq κ] in
theorem ext_get?
    [Std.TransOrd κ]
    {s t : Table κ ν}
    (h : ∀ k, s.get? k = t.get? k) :
    s = t := by
  apply Table.ext
  apply eq_of_ascending s.ascending t.ascending
  intro e
  have hs : s.get? e.1 = some e.2 ↔ e ∈ s.toList :=
    get?_eq_some_iff
  have ht : t.get? e.1 = some e.2 ↔ e ∈ t.toList :=
    get?_eq_some_iff
  rw [h] at hs
  exact hs.symm.trans ht

end Table

end Redeploy
