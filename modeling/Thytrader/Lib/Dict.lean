import Mathlib.Algebra.BigOperators.Group.List.Basic
import Mathlib.Algebra.GroupWithZero.Nat
import Mathlib.Data.List.Induction
import Mathlib.Data.List.Nodup

/-!
# Insertion-ordered dictionaries

A Python `dict` keeps its keys in insertion order: assigning to a present key
replaces the value where it stands, assigning to a fresh key appends, and
`pop` removes the entry. `Dict` is that structure as an association list whose
keys are distinct by construction, so no operation has to re-establish it.
-/

namespace Thytrader.Lib

open List

/-- An insertion-ordered map: entries in insertion order, keys distinct. -/
structure Dict (κ : Type) (α : Type) where
  entries : List (κ × α)
  nodup : (entries.map Prod.fst).Nodup

namespace Dict

variable {κ α : Type}
variable {k : κ} {v : α} {l : List (κ × α)} {e : κ × α} {d : Dict κ α}

def empty : Dict κ α := ⟨[], nodup_nil⟩

/-- `dict.values()`, in insertion order. -/
def values (d : Dict κ α) : List α := d.entries.map Prod.snd

variable [DecidableEq κ]

/-- `dict.get(k)`. -/
def get? (d : Dict κ α) (k : κ) : Option α :=
  (d.entries.find? (fun e => e.1 = k)).map Prod.snd

/-- `k in dict`. -/
def contains (d : Dict κ α) (k : κ) : Bool := (d.get? k).isSome

/-! ## Assignment -/

/-- `d[k] = v` on the entry list: replace in place, else append. -/
def setEntries (k : κ) (v : α) : List (κ × α) → List (κ × α)
  | [] => [(k, v)]
  | e :: rest => if e.1 = k then (k, v) :: rest else e :: setEntries k v rest

theorem mem_keys_setEntries {a : κ} :
    a ∈ (setEntries k v l).map Prod.fst ↔ a = k ∨ a ∈ l.map Prod.fst := by
  induction l with
  | nil => simp [setEntries]
  | cons _ _ ih =>
    unfold setEntries
    split
    next he =>
      simp only [map_cons, mem_cons, he]
      tauto
    next he =>
      simp only [map_cons, mem_cons, ih]
      tauto

theorem nodup_setEntries (h : (l.map Prod.fst).Nodup) :
    ((setEntries k v l).map Prod.fst).Nodup := by
  induction l with
  | nil => simp [setEntries]
  | cons _ _ ih =>
    rw [map_cons, nodup_cons] at h
    unfold setEntries
    split
    next he =>
      rw [map_cons, nodup_cons, ← he]
      exact h
    next he =>
      rw [map_cons, nodup_cons, mem_keys_setEntries]
      exact ⟨fun hk => hk.elim he h.1, ih h.2⟩

/-- `d[k] = v`. -/
def set (d : Dict κ α) (k : κ) (v : α) : Dict κ α :=
  ⟨setEntries k v d.entries, nodup_setEntries d.nodup⟩

theorem mem_setEntries (h : (l.map Prod.fst).Nodup) :
    e ∈ setEntries k v l ↔ e = (k, v) ∨ (e.1 ≠ k ∧ e ∈ l) := by
  induction l with
  | nil => simp [setEntries]
  | cons _ rest ih =>
    rw [map_cons, nodup_cons] at h
    unfold setEntries
    split
    next hf =>
      have hrest : e ∈ rest → e.1 ≠ k := by
        intro he hk
        exact h.1 (by rw [hf, ← hk]; exact mem_map_of_mem he)
      simp only [mem_cons]
      constructor
      · rintro (rfl | he)
        · exact .inl rfl
        · exact .inr ⟨hrest he, .inr he⟩
      · rintro (rfl | ⟨hne, rfl | he⟩)
        · exact .inl rfl
        · exact absurd hf hne
        · exact .inr he
    next hf =>
      simp only [mem_cons, ih h.2]
      constructor
      · rintro (rfl | rfl | ⟨hne, he⟩)
        · exact .inr ⟨hf, .inl rfl⟩
        · exact .inl rfl
        · exact .inr ⟨hne, .inr he⟩
      · rintro (rfl | ⟨hne, rfl | he⟩)
        · exact .inr (.inl rfl)
        · exact .inl rfl
        · exact .inr (.inr ⟨hne, he⟩)

theorem mem_set_iff : e ∈ (d.set k v).entries ↔ e = (k, v) ∨ (e.1 ≠ k ∧ e ∈ d.entries) :=
  mem_setEntries d.nodup

/-! ## Removal -/

/-- `d.pop(k, None)`. -/
def erase (d : Dict κ α) (k : κ) : Dict κ α :=
  ⟨d.entries.filter (fun e => e.1 ≠ k), d.nodup.sublist (filter_sublist.map _)⟩

theorem mem_erase_iff : e ∈ (d.erase k).entries ↔ e.1 ≠ k ∧ e ∈ d.entries := by
  simp only [erase, mem_filter, decide_eq_true_eq]
  exact and_comm

/-! ## Lookup -/

omit [DecidableEq κ] in
theorem entry_unique {w : α} (hv : (k, v) ∈ d.entries) (hw : (k, w) ∈ d.entries) : v = w := by
  have h := inj_on_of_nodup_map d.nodup hv hw rfl
  exact congrArg Prod.snd h

theorem get?_eq_some_iff : d.get? k = some v ↔ (k, v) ∈ d.entries := by
  unfold get?
  constructor
  · intro h
    obtain ⟨e, he, hv⟩ := Option.map_eq_some_iff.mp h
    have hk : e.1 = k := by simpa using find?_some he
    have hmem := mem_of_find?_eq_some he
    rw [← hk, ← hv]
    exact hmem
  · intro hmem
    cases hf : d.entries.find? (fun e => e.1 = k) with
    | none =>
      rw [find?_eq_none] at hf
      exact absurd (hf (k, v) hmem) (by simp)
    | some e =>
      have hk : e.1 = k := by simpa using find?_some hf
      have he := mem_of_find?_eq_some hf
      rw [Option.map_some, entry_unique (k := k) (v := e.2) (by rw [← hk]; exact he) hmem]

theorem get?_eq_none_iff : d.get? k = none ↔ ∀ v, (k, v) ∉ d.entries := by
  constructor
  · intro h v hv
    rw [get?_eq_some_iff.mpr hv] at h
    cases h
  · intro h
    cases hg : d.get? k with
    | none => rfl
    | some v => exact absurd (get?_eq_some_iff.mp hg) (h v)

@[simp] theorem get?_set_self (d : Dict κ α) (k : κ) (v : α) : (d.set k v).get? k = some v :=
  get?_eq_some_iff.mpr (mem_set_iff.mpr (.inl rfl))

theorem get?_set_ne {k' : κ} (h : k' ≠ k) (v : α) : (d.set k v).get? k' = d.get? k' := by
  apply Option.ext
  intro w
  rw [get?_eq_some_iff, get?_eq_some_iff, mem_set_iff]
  constructor
  · rintro (he | ⟨_, he⟩)
    · exact absurd (congrArg Prod.fst he) h
    · exact he
  · exact fun he => .inr ⟨h, he⟩

theorem get?_set (d : Dict κ α) (k k' : κ) (v : α) :
    (d.set k v).get? k' = if k' = k then some v else d.get? k' := by
  split
  next h => rw [h, get?_set_self]
  next h => exact get?_set_ne h v

/-- A lookup after a set finds the value set, or one that was there under another key. -/
theorem get?_set_cases {d d' : Dict κ α} {k' : κ} {w : α} (hset : d' = d.set k v)
    (h : d'.get? k' = some w) : (k' = k ∧ w = v) ∨ (k' ≠ k ∧ d.get? k' = some w) := by
  rw [hset, get?_set] at h
  split at h
  next he => exact .inl ⟨he, (Option.some.inj h).symm⟩
  next hne => exact .inr ⟨hne, h⟩

/-- What every entry satisfies is kept by a set whose own entry satisfies it. -/
theorem forall_set {d d' : Dict κ α} {P : κ → α → Prop} (hset : d' = d.set k v) (hnew : P k v)
    (hold : ∀ k' w, d.get? k' = some w → P k' w) (k' : κ) (w : α) (h : d'.get? k' = some w) :
    P k' w := by
  obtain ⟨rfl, rfl⟩ | ⟨-, h⟩ := get?_set_cases hset h
  · exact hnew
  · exact hold k' w h

@[simp] theorem get?_erase_self (d : Dict κ α) (k : κ) : (d.erase k).get? k = none :=
  get?_eq_none_iff.mpr (fun _ h => (mem_erase_iff.mp h).1 rfl)

theorem get?_erase_ne {k' : κ} (h : k' ≠ k) : (d.erase k).get? k' = d.get? k' := by
  apply Option.ext
  intro w
  rw [get?_eq_some_iff, get?_eq_some_iff, mem_erase_iff]
  exact ⟨fun he => he.2, fun he => ⟨h, he⟩⟩

/-- `d.update(other)`. -/
def update (d other : Dict κ α) : Dict κ α :=
  other.entries.foldl (fun d entry => d.set entry.1 entry.2) d

variable {β : Type}

/-- Setting rows with distinct keys finds the row of a key. -/
theorem get?_foldl_set_value (key : β → κ) (value : β → α) {rows : List β}
    (h : (rows.map key).Nodup) (d : Dict κ α) (k : κ) :
    (rows.foldl (fun d row => d.set (key row) (value row)) d).get? k =
      ((rows.find? (fun row => key row = k)).map value).or (d.get? k) := by
  induction rows generalizing d with
  | nil => rfl
  | cons row rest ih =>
    rw [map_cons, nodup_cons] at h
    rw [foldl_cons, ih h.2, find?_cons]
    by_cases hk : key row = k
    · have hnone : rest.find? (fun other => key other = k) = none := by
        rw [find?_eq_none]
        intro other hother hsame
        rw [decide_eq_true_eq] at hsame
        exact h.1 (by rw [hk, ← hsame]; exact mem_map_of_mem hother)
      rw [hnone, decide_eq_true hk, Option.map_none, Option.none_or, hk, get?_set_self]
      rfl
    · rw [get?_set_ne (Ne.symm hk), decide_eq_false hk]

/-- After an update a key holds the other dictionary's value, else the old one. -/
theorem get?_update (d other : Dict κ α) (k : κ) :
    (d.update other).get? k = (other.get? k).or (d.get? k) :=
  get?_foldl_set_value Prod.fst Prod.snd other.nodup d k

/-- `dict.fromkeys(keys, value)`. -/
def fromKeys (keys : List κ) (value : α) : Dict κ α :=
  keys.foldl (fun d key => d.set key value) empty

/-- Apply a function to every value where it stands. -/
def mapValues (d : Dict κ α) (f : α → α) : Dict κ α :=
  ⟨d.entries.map (fun e => (e.1, f e.2)), by
    rw [map_map]
    exact d.nodup⟩

@[simp] theorem get?_mapValues (d : Dict κ α) (f : α → α) (k : κ) :
    (d.mapValues f).get? k = (d.get? k).map f := by
  apply Option.ext
  intro w
  rw [get?_eq_some_iff, Option.map_eq_some_iff]
  simp only [mapValues, mem_map, Prod.mk.injEq]
  constructor
  · rintro ⟨e, he, rfl, rfl⟩
    exact ⟨e.2, get?_eq_some_iff.mpr he, rfl⟩
  · rintro ⟨v, hv, rfl⟩
    exact ⟨(k, v), get?_eq_some_iff.mp hv, rfl, rfl⟩

@[simp] theorem get?_empty (k : κ) : (empty : Dict κ α).get? k = none := rfl

variable (key : α → κ) {rows : List α}

/-- `{key(row): row for row in rows}` finds exactly the rows of a key that has one. -/
theorem get?_foldl_set_eq_some_iff (key : α → κ) {rows : List α}
    (hunique : ∀ a ∈ rows, ∀ b ∈ rows, key a = k → key b = k → a = b) :
    (rows.foldl (fun d row => d.set (key row) row) empty).get? k = some v ↔
      v ∈ rows ∧ key v = k := by
  induction rows using List.reverseRecOn with
  | nil => simp
  | append_singleton _ row ih =>
    rw [foldl_append, foldl_cons, foldl_nil, get?_set]
    split
    next hk =>
      constructor
      · intro hv
        cases hv
        exact ⟨by simp, hk.symm⟩
      · rintro ⟨hv, hkey⟩
        rw [hunique v hv row (by simp) hkey hk.symm]
    next hk =>
      rw [ih (fun a ha b hb => hunique a (by simp [ha]) b (by simp [hb]))]
      constructor
      · exact fun h => ⟨by simp [h.1], h.2⟩
      · rintro ⟨hv, hkey⟩
        rcases mem_append.mp hv with hv | hv
        · exact ⟨hv, hkey⟩
        · obtain rfl := mem_singleton.mp hv
          exact absurd hkey.symm hk

/-- Rows a key already holds may be assigned again. -/
theorem get?_foldl_set_of_stored (h : ∀ row ∈ rows, key row = k → d.get? k = some row) :
    (rows.foldl (fun d row => d.set (key row) row) d).get? k = d.get? k := by
  induction rows generalizing d with
  | nil => rfl
  | cons row _ ih =>
    have hrow : (d.set (key row) row).get? k = d.get? k := by
      by_cases hk : k = key row
      · rw [hk, get?_set_self, ← hk]
        exact (h row (by simp) hk.symm).symm
      · exact get?_set_ne hk row
    rw [foldl_cons, ih, hrow]
    intro other hother hkey
    rw [hrow]
    exact h other (by simp [hother]) hkey

/-- What a key holds after a list of assignments was assigned, or was there and not
assigned. -/
theorem mem_of_get?_foldl_set
    (h : (rows.foldl (fun d row => d.set (key row) row) d).get? k = some v) :
    v ∈ rows ∨ (d.get? k = some v ∧ ∀ row ∈ rows, key row ≠ k) := by
  induction rows generalizing d with
  | nil => exact .inr ⟨h, by simp⟩
  | cons _ _ ih =>
    rcases ih h with hmem | ⟨hget, hnone⟩
    · exact .inl (by simp [hmem])
    · rw [get?_set] at hget
      split at hget
      · cases hget
        exact .inl (by simp)
      next hk =>
        refine .inr ⟨hget, ?_⟩
        rintro other (_ | ⟨_, hother⟩)
        · exact Ne.symm hk
        · exact hnone other hother

/-- Lists that assign the same keys, and the same values under one, leave the same value under it.
-/
theorem get?_foldl_set_congr (key : β → κ) (value : β → α) {xs ys : List β}
    (h : List.Forall₂ (fun x y => key x = key y ∧ (key x = k → value x = value y)) xs ys)
    {d' : Dict κ α} (hd : d.get? k = d'.get? k) :
    (xs.foldl (fun d x => d.set (key x) (value x)) d).get? k =
      (ys.foldl (fun d y => d.set (key y) (value y)) d').get? k := by
  induction h generalizing d d' with
  | nil => exact hd
  | @cons x y xs ys hentry _ ih =>
    refine ih ?_
    rw [get?_set, get?_set, ← hentry.1]
    by_cases hk : k = key x
    · rw [if_pos hk, if_pos hk, hentry.2 hk.symm]
    · rw [if_neg hk, if_neg hk, hd]

theorem mem_values_iff : v ∈ d.values ↔ ∃ k, d.get? k = some v := by
  simp only [values, mem_map, get?_eq_some_iff]
  constructor
  · rintro ⟨e, he, rfl⟩
    exact ⟨e.1, he⟩
  · rintro ⟨k, hk⟩
    exact ⟨(k, v), hk, rfl⟩

/-- Dicts that answer alike hold the same entries. -/
theorem entries_perm {d' : Dict κ α} (h : ∀ k, d.get? k = d'.get? k) :
    d.entries.Perm d'.entries := by
  rw [perm_ext_iff_of_nodup (List.Nodup.of_map _ d.nodup) (List.Nodup.of_map _ d'.nodup)]
  rintro ⟨k, v⟩
  rw [← get?_eq_some_iff, ← get?_eq_some_iff, h k]

/-! ## Filters

An update of one key is invisible to a filter that keeps neither the old nor the new
entry under it. -/

variable {p : κ × α → Bool}

theorem filter_set (hnew : p (k, v) = false) (hold : ∀ w, d.get? k = some w → p (k, w) = false) :
    (d.set k v).entries.filter p = d.entries.filter p := by
  have hlist : ∀ l : List (κ × α), (∀ w, (k, w) ∈ l → p (k, w) = false) →
      (setEntries k v l).filter p = l.filter p := by
    intro l hl
    induction l with
    | nil => simp [setEntries, hnew]
    | cons e _ ih =>
      rw [setEntries]
      split
      next he =>
        obtain ⟨k', w⟩ := e
        obtain rfl : k' = k := he
        rw [filter_cons_of_neg (by simp [hnew]), filter_cons_of_neg (by simp [hl w (by simp)])]
      · rw [filter_cons, filter_cons, ih (fun w hw => hl w (by simp [hw]))]
  exact hlist d.entries (fun w hw => hold w (get?_eq_some_iff.mpr hw))

theorem filter_erase (hold : ∀ w, d.get? k = some w → p (k, w) = false) :
    (d.erase k).entries.filter p = d.entries.filter p := by
  unfold erase
  rw [filter_filter]
  apply filter_congr
  rintro ⟨k', w⟩ he
  by_cases hk : k' = k
  · subst hk
    simp [hold w (get?_eq_some_iff.mpr he)]
  · simp [hk]

omit [DecidableEq κ] in
theorem values_filter (d : Dict κ α) (q : α → Bool) :
    d.values.filter q = (d.entries.filter (fun e => q e.2)).map Prod.snd := by
  rw [values, filter_map]
  rfl

/-! ## Insertion -/

section

variable (h : d.get? k = none) (v : α)
include h

theorem entries_set_of_absent :
    (d.set k v).entries = d.entries ++ [(k, v)] := by
  have happend : ∀ l : List (κ × α), (∀ e ∈ l, e.1 ≠ k) → setEntries k v l = l ++ [(k, v)] := by
    intro l hl
    induction l with
    | nil => rfl
    | cons e _ ih =>
      rw [setEntries, if_neg (hl e (by simp)), ih (fun f hf => hl f (by simp [hf]))]
      rfl
  refine happend d.entries ?_
  rintro ⟨k', v'⟩ he rfl
  exact get?_eq_none_iff.mp h v' he

theorem values_set_of_absent :
    (d.set k v).values = d.values ++ [v] := by
  unfold values
  rw [entries_set_of_absent h, map_append]
  rfl

theorem erase_set_of_absent :
    ((d.set k v).erase k).entries = d.entries := by
  have hkeep : d.entries.filter (fun e => e.1 ≠ k) = d.entries := by
    rw [filter_eq_self]
    rintro ⟨k', v'⟩ he
    refine decide_eq_true ?_
    rintro rfl
    exact get?_eq_none_iff.mp h v' he
  unfold erase
  dsimp only
  rw [entries_set_of_absent h, filter_append, hkeep]
  simp

end

/-- `for row in rows: d[key(row)] = value(row)` over distinct fresh keys appends every
entry. -/
theorem entries_foldl_set (key : β → κ) (value : β → α) {rows : List β}
    (hnodup : (rows.map key).Nodup) (habsent : ∀ row ∈ rows, d.get? (key row) = none) :
    (rows.foldl (fun d row => d.set (key row) (value row)) d).entries =
      d.entries ++ rows.map (fun row => (key row, value row)) := by
  induction rows generalizing d with
  | nil => simp
  | cons row rest ih =>
    rw [map_cons, nodup_cons] at hnodup
    have hrest : ∀ other ∈ rest, (d.set (key row) (value row)).get? (key other) = none := by
      intro other hother
      have hne : key other ≠ key row := by
        intro he
        exact hnodup.1 (he ▸ mem_map_of_mem hother)
      rw [get?_set_ne hne]
      exact habsent other (by simp [hother])
    rw [foldl_cons, ih hnodup.2 hrest, entries_set_of_absent (habsent row (by simp)),
      map_cons, append_assoc]
    rfl

/-- `for row in rows: d[key(row)] = row` over distinct fresh keys appends every row. -/
theorem entries_foldl_set_of_absent (hnodup : (rows.map key).Nodup)
    (habsent : ∀ row ∈ rows, d.get? (key row) = none) :
    (rows.foldl (fun d row => d.set (key row) row) d).entries =
      d.entries ++ rows.map (fun row => (key row, row)) :=
  entries_foldl_set key id hnodup habsent

/-! ## Sizes -/

theorem length_set_le (d : Dict κ α) (k : κ) (v : α) :
    (d.set k v).entries.length ≤ d.entries.length + 1 := by
  have hlist : ∀ l : List (κ × α), (setEntries k v l).length ≤ l.length + 1 := by
    intro l
    induction l with
    | nil => simp [setEntries]
    | cons =>
      rw [setEntries]
      split
      · simp
      · rw [length_cons, length_cons]
        omega
  exact hlist d.entries

theorem length_set_of_present {w : α} (h : d.get? k = some w) (v : α) :
    (d.set k v).entries.length = d.entries.length := by
  have hlist : ∀ l : List (κ × α), (k, w) ∈ l → (setEntries k v l).length = l.length := by
    intro l hl
    induction l with
    | nil => cases hl
    | cons _ rest ih =>
      rw [setEntries]
      split
      · simp
      next hne =>
        have hrest : (k, w) ∈ rest := by
          rcases mem_cons.mp hl with rfl | hrest
          · exact absurd rfl hne
          · exact hrest
        rw [length_cons, length_cons, ih hrest]
  exact hlist d.entries (get?_eq_some_iff.mp h)

theorem length_foldl_set_le (key : β → κ) (value : β → α) (rows : List β) (d : Dict κ α) :
    (rows.foldl (fun d row => d.set (key row) (value row)) d).entries.length ≤
      d.entries.length + rows.length := by
  induction rows generalizing d with
  | nil => simp
  | cons row _ ih =>
    have hset := length_set_le d (key row) (value row)
    have hfold := ih (d.set (key row) (value row))
    rw [foldl_cons, length_cons]
    omega

/-- As many entries as assignments: every key was fresh. -/
theorem nodup_of_length_foldl_set {β : Type} (key : β → κ) (value : β → α) {rows : List β}
    (h : d.entries.length + rows.length ≤ (rows.foldl (fun d row => d.set (key row) (value row))
      d).entries.length) : (rows.map key).Nodup ∧ ∀ row ∈ rows, d.get? (key row) = none := by
  induction rows generalizing d with
  | nil => simp
  | cons row rest ih =>
    rw [foldl_cons, length_cons] at h
    have hset := length_set_le d (key row) (value row)
    have hfold := length_foldl_set_le key value rest (d.set (key row) (value row))
    have habsent : d.get? (key row) = none := by
      cases hget : d.get? (key row) with
      | none => rfl
      | some =>
        have := length_set_of_present hget (value row)
        omega
    obtain ⟨hnodup, hrest⟩ := ih (d := d.set (key row) (value row)) (by omega)
    have hne : ∀ other ∈ rest, key other ≠ key row := by
      intro other hother he
      have := hrest other hother
      rw [he, get?_set_self] at this
      cases this
    refine ⟨?_, ?_⟩
    · rw [map_cons, nodup_cons]
      refine ⟨fun hmem => ?_, hnodup⟩
      obtain ⟨other, hother, he⟩ := mem_map.mp hmem
      exact hne other hother he
    · intro other hother
      rcases mem_cons.mp hother with rfl | hother
      · exact habsent
      · have := hrest other hother
        rwa [get?_set_ne (hne other hother)] at this

/-! ## Counters -/

theorem sum_values_set {M : Type} [AddCommMonoid M] (value : α → M) (d : Dict κ α) (k : κ) (v : α) :
    ((d.set k v).values.map value).sum + ((d.get? k).map value).getD 0 =
      (d.values.map value).sum + value v := by
  obtain ⟨entries, hnodup⟩ := d
  simp only [values, set, get?, map_map, Option.map_map]
  clear hnodup
  induction entries with
  | nil => simp [setEntries]
  | cons e _ ih =>
    rw [setEntries, find?_cons]
    by_cases he : e.1 = k
    · rw [if_pos he, decide_eq_true he]
      simp only [map_cons, sum_cons, Option.map_some, Option.getD_some, Function.comp_apply]
      ac_rfl
    · rw [if_neg he, decide_eq_false he]
      simp only [map_cons, sum_cons, add_assoc, ih]

/-- `d[k] = d.get(k, 0) + 1` raises the sum of the counters by one. -/
theorem sum_values_increment (d : Dict κ Nat) (k : κ) :
    (d.set k ((d.get? k).getD 0 + 1)).values.sum = d.values.sum + 1 := by
  have hsum := sum_values_set id d k ((d.get? k).getD 0 + 1)
  simp only [map_id, Option.map_id_fun, id_eq] at hsum
  omega

/-- A counter that is there has counted something. -/
theorem one_le_of_increment {d : Dict κ Nat} (h : ∀ n ∈ d.values, 1 ≤ n) :
    ∀ n ∈ (d.set k ((d.get? k).getD 0 + 1)).values, 1 ≤ n := by
  intro n hn
  obtain ⟨e, he, rfl⟩ := mem_map.mp hn
  rcases mem_set_iff.mp he with rfl | ⟨-, hold⟩
  · exact Nat.le_add_left 1 _
  · exact h e.2 (mem_map_of_mem hold)

end Dict

end Thytrader.Lib
