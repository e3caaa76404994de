/-
This file shows which keys a mapping has after assignments.
-/

import Mathlib.Data.List.Dedup
import Mathlib.Data.List.Induction
import SvgComponent.Mapping

namespace SvgComponent.Mapping

variable {κ α : Type}

/-- The keys of a mapping in their order. -/
def keys (mapping : Mapping κ α) : List κ :=
  mapping.map Prod.fst

@[simp] theorem keys_nil : keys ([] : Mapping κ α) = [] := rfl

@[simp] theorem keys_cons (entry : κ × α) (rest : Mapping κ α) :
    keys (entry :: rest) = entry.1 :: keys rest := rfl

variable [DecidableEq κ]

/-- An assignment adds its key to the end if it is new. -/
theorem keys_assign (mapping : Mapping κ α) (key : κ) (value : α) :
    keys (assign mapping key value) =
      if key ∈ keys mapping then keys mapping else keys mapping ++ [key] := by
  induction mapping with
  | nil => rfl
  | cons entry rest inductionHypothesis =>
      by_cases same : entry.1 = key
      · simp [assign, same]
      · rw [assign, if_neg same, keys_cons, keys_cons, inductionHypothesis]
        by_cases known : key ∈ keys rest <;> simp [known, Ne.symm same]

theorem nodup_keys_assign {mapping : Mapping κ α} (distinct : (keys mapping).Nodup) (key : κ)
    (value : α) : (keys (assign mapping key value)).Nodup := by
  rw [keys_assign]
  split
  · exact distinct
  · case _ fresh =>
      rw [List.nodup_append]
      refine ⟨distinct, List.nodup_singleton key, ?_⟩
      intro known member last same
      rw [List.mem_singleton] at same
      subst same
      rintro rfl
      exact fresh member

theorem mem_keys_assign (mapping : Mapping κ α) (key other : κ) (value : α) :
    other ∈ keys (assign mapping key value) ↔ other ∈ keys mapping ∨ other = key := by
  rw [keys_assign]
  split
  · constructor
    · exact .inl
    · rintro (known | rfl) <;> assumption
  · rw [List.mem_append, List.mem_singleton]

theorem nodup_keys_assignAll {mapping : Mapping κ α} (distinct : (keys mapping).Nodup)
    (update : List (κ × α)) : (keys (assignAll mapping update)).Nodup := by
  induction update generalizing mapping with
  | nil => exact distinct
  | cons entry update inductionHypothesis =>
      exact inductionHypothesis (nodup_keys_assign distinct entry.1 entry.2)

theorem mem_keys_assignAll (mapping : Mapping κ α) (update : List (κ × α)) (key : κ) :
    key ∈ keys (assignAll mapping update) ↔ key ∈ keys mapping ∨ key ∈ update.map Prod.fst := by
  induction update generalizing mapping with
  | nil => simp [assignAll]
  | cons entry update inductionHypothesis =>
      have tail := inductionHypothesis (mapping.assign entry.1 entry.2)
      rw [mem_keys_assign, or_assoc] at tail
      simpa [assignAll] using tail

/-- No key occurs twice in a mapping that is made of entries. -/
theorem nodup_keys_ofEntries (entries : List (κ × α)) : (keys (ofEntries entries)).Nodup := by
  have empty : (keys ([] : Mapping κ α)).Nodup := List.nodup_nil
  exact nodup_keys_assignAll empty entries

theorem assign_of_notMem {mapping : Mapping κ α} {key : κ} (fresh : key ∉ keys mapping)
    (value : α) :
    assign mapping key value = mapping ++ [(key, value)] := by
  induction mapping with
  | nil => rfl
  | cons entry rest inductionHypothesis =>
      rw [keys_cons, List.mem_cons, not_or] at fresh
      rw [assign, if_neg (Ne.symm fresh.1), inductionHypothesis fresh.2, List.cons_append]

/-- Entries with new keys go to the end one after the other. -/
theorem assignAll_eq_append {mapping : Mapping κ α} {update : List (κ × α)}
    (distinct : (keys (mapping ++ update)).Nodup) :
    assignAll mapping update = mapping ++ update := by
  induction update generalizing mapping with
  | nil => exact (List.append_nil mapping).symm
  | cons entry update inductionHypothesis =>
      have fresh : entry.1 ∉ keys mapping := by
        rw [keys, List.map_append] at distinct
        intro known
        exact (List.nodup_append.mp distinct).2.2 entry.1 known entry.1 List.mem_cons_self rfl
      have moved : (keys ((mapping ++ [entry]) ++ update)).Nodup := by
        simpa using distinct
      change assignAll (assign mapping entry.1 entry.2) update = _
      rw [assign_of_notMem fresh, inductionHypothesis moved, List.append_assoc]
      rfl

/-- Entries with distinct keys are a mapping already. -/
theorem ofEntries_eq_self {entries : List (κ × α)} (distinct : (keys entries).Nodup) :
    ofEntries entries = entries := by
  rw [ofEntries, assignAll_eq_append]
  · rfl
  · exact distinct

/-- A mapping that is made of entries has exactly their keys. -/
theorem mem_keys_ofEntries (entries : List (κ × α)) (key : κ) :
    key ∈ keys (ofEntries entries) ↔ key ∈ entries.map Prod.fst := by
  have all := mem_keys_assignAll [] entries key
  rwa [keys_nil, or_iff_right List.not_mem_nil] at all

/-- A mapping that is made of entries has one entry for each distinct key. -/
theorem length_ofEntries (entries : List (κ × α)) :
    (ofEntries entries).length = (entries.map Prod.fst).dedup.length := by
  have same : (keys (ofEntries entries)).Perm (entries.map Prod.fst).dedup := by
    rw [List.perm_ext_iff_of_nodup (nodup_keys_ofEntries entries) (List.nodup_dedup _)]
    intro key
    rw [mem_keys_ofEntries, List.mem_dedup]
  simpa [keys] using same.length_eq

/-- Entries make an empty mapping only if there are none. -/
theorem ofEntries_eq_nil {entries : List (κ × α)} (empty : ofEntries entries = []) :
    entries = [] := by
  cases entries with
  | nil => rfl
  | cons entry entries =>
      have member := (mem_keys_ofEntries (entry :: entries) entry.1).mpr (by simp)
      rw [empty] at member
      contradiction

/-- An assignment changes the value of its key only. -/
theorem valueAt?_assign (mapping : Mapping κ α) (key other : κ) (value : α) :
    valueAt? (assign mapping key value) other =
      if key = other then some value else valueAt? mapping other := by
  induction mapping with
  | nil => rfl
  | cons entry rest inductionHypothesis =>
      by_cases same : entry.1 = key
      · rw [assign, if_pos same, valueAt?, valueAt?]
        by_cases known : entry.1 = other
        · rw [if_pos known, if_pos (same.symm.trans known)]
        · rw [if_neg known, if_neg (same ▸ known), if_neg known]
      · rw [assign, if_neg same, valueAt?, valueAt?, inductionHypothesis]
        by_cases known : entry.1 = other
        · rw [if_pos known, if_neg fun equal => same (known.trans equal.symm), if_pos known]
        · rw [if_neg known, if_neg known]

theorem ofEntries_concat (entries : List (κ × α)) (entry : κ × α) :
    ofEntries (entries ++ [entry]) = assign (ofEntries entries) entry.1 entry.2 := by
  simp [ofEntries, assignAll]

/-- A key at the end of a list is a new one only if it does not stand before. -/
theorem eraseDups_concat (keys : List κ) (key : κ) :
    (keys ++ [key]).eraseDups =
      if key ∈ keys.eraseDups then keys.eraseDups else keys.eraseDups ++ [key] := by
  rw [List.eraseDups_append, List.removeAll, List.filter_singleton]
  split
  · case _ known =>
      rw [List.elem_eq_true_of_mem (List.mem_eraseDups.mp known)]
      exact List.append_nil _
  · case _ new =>
      rw [List.mem_eraseDups] at new
      have absent : List.elem key keys = false := by simpa using new
      rw [absent]
      rfl

/-- The keys stand in the order in which they occurred first. -/
theorem keys_ofEntries (entries : List (κ × α)) :
    keys (ofEntries entries) = (entries.map Prod.fst).eraseDups := by
  induction entries using List.reverseRecOn with
  | nil => rfl
  | append_singleton entries entry inductionHypothesis =>
      rw [ofEntries_concat, keys_assign, inductionHypothesis, List.map_append, List.map_singleton,
        eraseDups_concat]

/-- The last entry with a key decides its value. -/
theorem valueAt?_ofEntries (entries : List (κ × α)) (key : κ) :
    valueAt? (ofEntries entries) key =
      (entries.filter fun entry => entry.1 = key).getLast?.map Prod.snd := by
  induction entries using List.reverseRecOn with
  | nil => rfl
  | append_singleton entries entry inductionHypothesis =>
      rw [ofEntries_concat, valueAt?_assign, inductionHypothesis, List.filter_append]
      by_cases same : entry.1 = key <;> simp [same]

/-- Taking entries out by their keys does not change the other assignments. -/
theorem filter_assign (kept : κ → Bool) (mapping : Mapping κ α) (key : κ) (value : α) :
    (assign mapping key value).filter (fun entry => kept entry.1) =
      if kept key then assign (mapping.filter fun entry => kept entry.1) key value
      else mapping.filter fun entry => kept entry.1 := by
  induction mapping with
  | nil => cases known : kept key <;> simp [assign, known]
  | cons entry rest inductionHypothesis =>
      by_cases same : entry.1 = key
      · subst same
        cases known : kept entry.1 <;> simp [assign, known]
      · rw [assign, if_neg same]
        cases known : kept entry.1 with
        | false => simp [known, inductionHypothesis]
        | true =>
            simp only [List.filter_cons, known, if_true, inductionHypothesis]
            split <;> simp [assign, same]

theorem ofEntries_filter (kept : κ → Bool) (entries : List (κ × α)) :
    ofEntries (entries.filter fun entry => kept entry.1) =
      (ofEntries entries).filter fun entry => kept entry.1 := by
  induction entries using List.reverseRecOn with
  | nil => rfl
  | append_singleton entries entry inductionHypothesis =>
      rw [ofEntries_concat, filter_assign, ← inductionHypothesis, List.filter_append]
      cases known : kept entry.1 <;> simp [known, ofEntries_concat]

theorem valueAt?_eq_none_iff (mapping : Mapping κ α) (key : κ) :
    valueAt? mapping key = none ↔ key ∉ keys mapping := by
  induction mapping with
  | nil => simp [valueAt?]
  | cons entry rest inductionHypothesis =>
      by_cases same : entry.1 = key
      · simp [valueAt?, same]
      · simp [valueAt?, same, Ne.symm same, inductionHypothesis]

theorem valueAt?_of_mem {mapping : Mapping κ α} (distinct : (keys mapping).Nodup) {entry : κ × α}
    (member : entry ∈ mapping) : valueAt? mapping entry.1 = some entry.2 := by
  induction mapping with
  | nil => contradiction
  | cons first rest inductionHypothesis =>
      rw [keys_cons, List.nodup_cons] at distinct
      rcases List.mem_cons.mp member with rfl | later
      · rw [valueAt?, if_pos rfl]
      · have other : first.1 ≠ entry.1 := fun same =>
          distinct.1 (same ▸ List.mem_map_of_mem later)
        rw [valueAt?, if_neg other, inductionHypothesis distinct.2 later]

/-- A mapping that is made of entries has no entries of its own. -/
theorem mem_of_mem_ofEntries {entries : List (κ × α)} {entry : κ × α}
    (member : entry ∈ ofEntries entries) : entry ∈ entries := by
  have value := valueAt?_of_mem (nodup_keys_ofEntries entries) member
  rw [valueAt?_ofEntries] at value
  obtain ⟨last, final, same⟩ := Option.map_eq_some_iff.mp value
  obtain ⟨known, named⟩ := List.mem_filter.mp (List.mem_of_getLast? final)
  rwa [← Prod.ext (of_decide_eq_true named) same]

/-- A new key leaves no trace once it is taken out again. -/
theorem without_assign {mapping : Mapping κ α} {key : κ} (fresh : valueAt? mapping key = none)
    (value : α) : without (assign mapping key value) key = mapping := by
  induction mapping with
  | nil => simp [assign, without]
  | cons entry rest inductionHypothesis =>
      by_cases same : entry.1 = key
      · simp [valueAt?, same] at fresh
      · rw [valueAt?, if_neg same] at fresh
        have later := inductionHypothesis fresh
        rw [without] at later ⊢
        rw [assign, if_neg same, List.filter_cons_of_pos (by simpa using same), later]

theorem nodup_keys_without {mapping : Mapping κ α} (distinct : (keys mapping).Nodup) (key : κ) :
    (keys (without mapping key)).Nodup :=
  distinct.sublist (List.filter_sublist.map Prod.fst)

/-- Mappings with the same keys in the same order and the same values are the same. -/
theorem eq_of_valueAt? {first second : Mapping κ α} (distinct : (keys first).Nodup)
    (ordered : keys first = keys second)
    (each : ∀ key, valueAt? first key = valueAt? second key) : first = second := by
  induction first generalizing second with
  | nil =>
      cases second with
      | nil => rfl
      | cons entry rest => contradiction
  | cons entry rest inductionHypothesis =>
      cases second with
      | nil => contradiction
      | cons other others =>
          obtain ⟨key, value⟩ := entry
          obtain ⟨key', value'⟩ := other
          obtain ⟨same, later⟩ : key = key' ∧ keys rest = keys others := by simpa using ordered
          subst same
          rw [keys_cons, List.nodup_cons] at distinct
          have equal : value = value' := by simpa [valueAt?] using each key
          rw [equal, inductionHypothesis distinct.2 later fun other => ?_]
          by_cases known : key = other
          · subst known
            rw [(valueAt?_eq_none_iff rest key).mpr distinct.1, eq_comm, valueAt?_eq_none_iff,
              ← later]
            exact distinct.1
          · simpa [valueAt?, known] using each other

end SvgComponent.Mapping
