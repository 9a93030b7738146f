/-!
# Entries in order

A map that remembers the order in which its keys came: a list of pairs. Putting a value under a
key that is there keeps the key's place; a new key goes last.

* `get?_put_self`, `get?_put_of_ne`: what is put is found, and nothing else moves.
* `keys_put`: the keys after putting.
* `keys_putAll`, `get?_putAll_of_mem`, `get?_putAll_of_not_mem`: the same of many entries.
-/

namespace Relink

/-- Pairs of a key and a value in order. -/
abbrev Entries (α : Type) := List (String × α)

namespace Entries

variable {α : Type}

/-- The value under a key. -/
def get? (key : String) : Entries α → Option α
  | [] => none
  | (k, v) :: rest => if k == key then some v else get? key rest

/-- The entries with `value` under `key`. -/
def put (key : String) (value : α) : Entries α → Entries α
  | [] => [(key, value)]
  | (k, v) :: rest => if k == key then (k, value) :: rest else (k, v) :: put key value rest

/-- The keys in order. -/
def keys (entries : Entries α) : List String := entries.map Prod.fst

/-- The entries with those of `more` put one after another. -/
def putAll (entries more : Entries α) : Entries α :=
  more.foldl (fun acc entry => put entry.1 entry.2 acc) entries

@[simp]
theorem get?_put_self (key : String) (value : α) (entries : Entries α) :
    get? key (put key value entries) = some value := by
  induction entries with
  | nil => simp [put, get?]
  | cons entry rest ih => by_cases h : entry.1 = key <;> simp [put, get?, h, ih]

theorem get?_put_of_ne {key other : String} (h : other ≠ key) (value : α) (entries : Entries α) :
    get? other (put key value entries) = get? other entries := by
  induction entries with
  | nil => simp [put, get?, h.symm]
  | cons entry rest ih =>
    by_cases hk : entry.1 = key
    · simp [put, get?, hk, h.symm]
    · simp [put, get?, hk, ih]

theorem get?_isSome {key : String} {entries : Entries α} :
    (get? key entries).isSome = true ↔ key ∈ keys entries := by
  induction entries with
  | nil => simp [get?, keys]
  | cons entry rest ih =>
    by_cases h : entry.1 = key
    · simp [get?, keys, h]
    · simp only [keys] at ih
      simp [get?, keys, h, ih, Ne.symm h]

/-- **The keys after putting**: unchanged if the key was there, else with the key last. -/
theorem keys_put (key : String) (value : α) (entries : Entries α) :
    keys (put key value entries) =
      if key ∈ keys entries then keys entries else keys entries ++ [key] := by
  induction entries with
  | nil => simp [put, keys]
  | cons entry rest ih =>
    by_cases h : entry.1 = key
    · simp [put, keys, h]
    · simp only [keys] at ih
      simp only [put, keys, h, beq_iff_eq, if_false, List.map_cons, ih, List.mem_cons,
        Ne.symm h, false_or, List.cons_append]
      split <;> simp_all

theorem put_of_not_mem {key : String} {entries : Entries α} (h : key ∉ keys entries) (value : α) :
    put key value entries = entries ++ [(key, value)] := by
  induction entries with
  | nil => rfl
  | cons entry rest ih =>
    simp only [keys, List.map_cons, List.mem_cons, not_or] at h
    simp [put, Ne.symm h.1, ih h.2]

theorem putAll_cons (entries : Entries α) (entry : String × α) (more : Entries α) :
    putAll entries (entry :: more) = putAll (put entry.1 entry.2 entries) more := rfl

/-- **The keys after putting many entries**: those that were there, and then the new ones. -/
theorem keys_putAll {more : Entries α} (hn : (keys more).Nodup) (entries : Entries α) :
    keys (putAll entries more) =
      keys entries ++ (keys more).filter fun key => key ∉ keys entries := by
  induction more generalizing entries with
  | nil => simp [putAll, keys]
  | cons entry more ih =>
    obtain ⟨hnew, hrest⟩ := List.nodup_cons.1 hn
    have hkeys : keys (entry :: more) = entry.1 :: keys more := rfl
    rw [putAll_cons, ih hrest, keys_put, hkeys]
    by_cases hm : entry.1 ∈ keys entries
    · rw [if_pos hm, List.filter_cons_of_neg (by simpa using hm)]
    · have hlater : ((keys more).filter fun key => key ∉ keys entries ++ [entry.1]) =
          (keys more).filter fun key => key ∉ keys entries := by
        refine List.filter_congr fun key hk => ?_
        have hne : key ≠ entry.1 := fun he => hnew (he ▸ hk)
        simp [hne]
      rw [if_neg hm, hlater, List.filter_cons_of_pos (by simpa using hm)]
      simp

theorem get?_putAll_of_not_mem {key : String} {more : Entries α} (h : key ∉ keys more)
    (entries : Entries α) : get? key (putAll entries more) = get? key entries := by
  induction more generalizing entries with
  | nil => rfl
  | cons entry more ih =>
    simp only [keys, List.map_cons, List.mem_cons, not_or] at h
    rw [putAll_cons, ih h.2, get?_put_of_ne h.1]

theorem get?_putAll_of_mem {key : String} {value : α} {more : Entries α} (hn : (keys more).Nodup)
    (h : (key, value) ∈ more) (entries : Entries α) :
    get? key (putAll entries more) = some value := by
  induction more generalizing entries with
  | nil => cases h
  | cons entry more ih =>
    obtain ⟨hnew, hrest⟩ := List.nodup_cons.1 hn
    rw [putAll_cons]
    rcases List.mem_cons.1 h with rfl | h
    · rw [get?_putAll_of_not_mem hnew, get?_put_self]
    · exact ih hrest h _

/-- Entries with new and distinct keys go last as they are. -/
theorem putAll_eq_append {entries more : Entries α} (h : (keys (entries ++ more)).Nodup) :
    putAll entries more = entries ++ more := by
  induction more generalizing entries with
  | nil => simp [putAll]
  | cons entry more ih =>
    have hsplit : entries ++ entry :: more = entries ++ [entry] ++ more := by simp
    have hnew : entry.1 ∉ keys entries := by
      rw [keys, List.map_append, List.nodup_append] at h
      exact fun hm => h.2.2 _ hm _ List.mem_cons_self rfl
    rw [putAll_cons, put_of_not_mem hnew, hsplit]
    exact ih (by rwa [← hsplit])

end Entries

end Relink
