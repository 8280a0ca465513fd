/-!
# Tables

A finite map as the list of its pairs. A key means the first pair that
carries it; `put` changes that pair where it stands, or adds one at the
end, and `erase` drops every pair with the key. One law for each operation
says what a look-up sees afterwards.
-/

namespace Graft

/-- Keys with their values. -/
abbrev Table (κ : Type) (ν : Type) := List (κ × ν)

namespace Table

variable {κ ν : Type} [DecidableEq κ]

/-- The value a key carries. -/
def get? (key : κ) : Table κ ν → Option ν
  | [] => none
  | (k, v) :: rest => if k = key then some v else get? key rest

/-- The table in which `key` carries `value` and all else is as it was. -/
def put (key : κ) (value : ν) : Table κ ν → Table κ ν
  | [] => [(key, value)]
  | (k, v) :: rest => if k = key then (k, value) :: rest else (k, v) :: put key value rest

/-- The table without `key`. -/
def erase (key : κ) (table : Table κ ν) : Table κ ν :=
  table.filter fun pair => pair.1 ≠ key

@[simp] theorem get?_nil (key : κ) : get? key ([] : Table κ ν) = none := rfl

theorem get?_put (key key' : κ) (value : ν) (table : Table κ ν) :
    get? key' (put key value table) = if key = key' then some value else get? key' table := by
  induction table with
  | nil => simp [put, get?]
  | cons pair rest ih =>
    obtain ⟨k, v⟩ := pair
    unfold put
    split
    · simp only [get?]
      split <;> simp_all
    · simp only [get?, ih]
      split <;> split <;> simp_all

theorem get?_erase (key key' : κ) (table : Table κ ν) :
    get? key' (erase key table) = if key = key' then none else get? key' table := by
  induction table with
  | nil => simp [erase]
  | cons pair rest ih =>
    obtain ⟨k, v⟩ := pair
    unfold erase at ih ⊢
    by_cases hk : k = key
    · subst hk
      simp only [ne_eq, not_true_eq_false, decide_false, Bool.false_eq_true, not_false_eq_true,
        List.filter_cons_of_neg, get?]
      rw [ih]
      split <;> simp_all
    · simp only [ne_eq, hk, not_false_eq_true, decide_true, List.filter_cons_of_pos, get?]
      rw [ih]
      split <;> split <;> simp_all

/-- A key that carries nothing stands nowhere in the list. -/
theorem get?_eq_none_iff {key : κ} {table : Table κ ν} :
    get? key table = none ↔ ∀ pair ∈ table, pair.1 ≠ key := by
  induction table with
  | nil => simp
  | cons pair rest ih =>
    obtain ⟨k, v⟩ := pair
    by_cases hk : k = key <;> simp [get?, hk, ih]

/-- A key that carries nothing is added at the end. -/
theorem put_eq_append_of_get?_eq_none {key : κ} {table : Table κ ν} (h : get? key table = none)
    (value : ν) : put key value table = table ++ [(key, value)] := by
  induction table with
  | nil => rfl
  | cons pair rest ih =>
    obtain ⟨k, v⟩ := pair
    simp only [get?] at h
    split at h
    · simp at h
    · simp [put, *]

/-- Dropping a key that carries nothing changes nothing. -/
theorem erase_eq_self_of_get?_eq_none {key : κ} {table : Table κ ν} (h : get? key table = none) :
    erase key table = table := by
  unfold erase
  rw [List.filter_eq_self]
  intro pair hp
  simpa using get?_eq_none_iff.1 h pair hp

/-- Putting a new key and dropping it again changes nothing. -/
theorem erase_put_of_get?_eq_none {key : κ} {table : Table κ ν} (h : get? key table = none)
    (value : ν) : erase key (put key value table) = table := by
  have he : erase key (table ++ [(key, value)]) = erase key table := by simp [erase]
  rw [put_eq_append_of_get?_eq_none h, he, erase_eq_self_of_get?_eq_none h]

/-- Of two values put under one key the later one stays. -/
theorem put_put (key : κ) (a b : ν) (table : Table κ ν) :
    put key b (put key a table) = put key b table := by
  induction table with
  | nil => simp [put]
  | cons pair rest ih =>
    obtain ⟨k, v⟩ := pair
    by_cases hk : k = key <;> simp [put, hk, ih]

/-- Putting the value a key already carries changes nothing. -/
theorem put_eq_self_of_get?_eq_some {key : κ} {value : ν} {table : Table κ ν}
    (h : get? key table = some value) : put key value table = table := by
  induction table with
  | nil => simp at h
  | cons pair rest ih =>
    obtain ⟨k, v⟩ := pair
    simp only [get?] at h
    split at h
    · simp_all [put]
    · simp_all [put]

/-- A key that carries a value stands in the list. -/
theorem mem_of_get?_eq_some {key : κ} {value : ν} {table : Table κ ν}
    (h : get? key table = some value) : (key, value) ∈ table := by
  induction table with
  | nil => simp at h
  | cons pair rest ih =>
    obtain ⟨k, v⟩ := pair
    simp only [get?] at h
    split at h
    · simp_all
    · exact List.mem_cons_of_mem _ (ih h)

end Table

end Graft
