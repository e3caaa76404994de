/-
This file shows how mappings and lists of entries are made of each other.
-/

import SvgComponent.Proofs.Mapping

namespace SvgComponent.Mapping

variable {κ α : Type} [DecidableEq κ]

theorem assignAll_concat (mapping : Mapping κ α) (update : List (κ × α)) (entry : κ × α) :
    assignAll mapping (update ++ [entry]) = assign (assignAll mapping update) entry.1 entry.2 := by
  rw [assignAll, List.foldl_append]
  rfl

/-- The last entry of an update with a key decides its value. A key without one keeps its value. -/
theorem valueAt?_assignAll (mapping : Mapping κ α) (update : List (κ × α)) (key : κ) :
    valueAt? (assignAll mapping update) key =
      ((update.filter fun entry => entry.1 = key).getLast?.map Prod.snd).or
        (valueAt? mapping key) := by
  induction update using List.reverseRecOn with
  | nil => rfl
  | append_singleton update entry inductionHypothesis =>
      rw [assignAll_concat, valueAt?_assign, inductionHypothesis, List.filter_append]
      by_cases same : entry.1 = key <;> simp [same]

/-- The keys of a mapping stay in front of the new keys of an update. -/
theorem keys_assignAll {mapping : Mapping κ α} (distinct : (keys mapping).Nodup)
    (update : List (κ × α)) :
    keys (assignAll mapping update) = (keys mapping ++ update.map Prod.fst).eraseDups := by
  induction update using List.reverseRecOn with
  | nil =>
      have whole := keys_ofEntries mapping
      rw [ofEntries_eq_self distinct] at whole
      rw [List.map_nil, List.append_nil]
      exact whole
  | append_singleton update entry inductionHypothesis =>
      rw [assignAll_concat, keys_assign, inductionHypothesis, List.map_append, List.map_singleton,
        ← List.append_assoc, eraseDups_concat]

/-- Repeated keys behind other keys may be erased first. -/
theorem eraseDups_append_eraseDups (front back : List κ) :
    (front ++ back.eraseDups).eraseDups = (front ++ back).eraseDups := by
  induction back using List.reverseRecOn with
  | nil => rfl
  | append_singleton back key inductionHypothesis =>
      rw [eraseDups_concat back key, ← List.append_assoc, eraseDups_concat (front ++ back) key,
        ← inductionHypothesis]
      split
      · case _ known =>
          have inside : key ∈ (front ++ back.eraseDups).eraseDups :=
            List.mem_eraseDups.mpr (List.mem_append_right front known)
          rw [if_pos inside]
      · rw [← List.append_assoc, eraseDups_concat]

/-- An update with a mapping that is made of entries is an update with these entries. -/
theorem assignAll_ofEntries {mapping : Mapping κ α} (distinct : (keys mapping).Nodup)
    (entries : List (κ × α)) :
    assignAll mapping (ofEntries entries) = assignAll mapping entries := by
  refine eq_of_valueAt? (nodup_keys_assignAll distinct _) ?_ fun key => ?_
  · have erased := keys_ofEntries entries
    rw [keys] at erased
    rw [keys_assignAll distinct, keys_assignAll distinct, erased, eraseDups_append_eraseDups]
  · have again := valueAt?_ofEntries (ofEntries entries) key
    rw [ofEntries_eq_self (nodup_keys_ofEntries entries), valueAt?_ofEntries] at again
    rw [valueAt?_assignAll, valueAt?_assignAll, again]

/-- The entries of a mapping are its keys with their values. -/
theorem toEntries_eq_filterMap {mapping : Mapping κ α} (distinct : (keys mapping).Nodup) :
    toEntries mapping =
      (keys mapping).filterMap fun key => (valueAt? mapping key).map fun value => (key, value) := by
  have each : ∀ entry ∈ mapping,
      ((fun key => (valueAt? mapping key).map fun value => (key, value)) ∘ Prod.fst) entry =
        some entry := by
    intro entry member
    simp [valueAt?_of_mem distinct member]
  rw [keys, List.filterMap_map, List.filterMap_congr each, List.filterMap_some, toEntries]

/-- Of the entries with one key, the mapping keeps the last one, in the place of the first one. -/
theorem toEntries_ofEntries (entries : List (κ × α)) :
    toEntries (ofEntries entries) =
      (entries.map Prod.fst).eraseDups.filterMap fun key =>
        (entries.filter fun entry => entry.1 = key).getLast? := by
  rw [toEntries_eq_filterMap (nodup_keys_ofEntries entries), keys_ofEntries]
  apply List.filterMap_congr
  intro key _
  rw [valueAt?_ofEntries]
  cases final : (entries.filter fun entry => entry.1 = key).getLast? with
  | none => rfl
  | some last =>
      obtain ⟨-, named⟩ := List.mem_filter.mp (List.mem_of_getLast? final)
      rw [← of_decide_eq_true named]
      rfl

/-- A mapping is made again of its entries. A list of entries becomes a mapping with one entry for
each key, in the order in which the keys occurred first and with the values that occurred last. The
list stays as it is exactly if its keys are distinct. More entries update the mapping of those
before them. -/
theorem entries_round_trip :
    (∀ mapping : Mapping κ α, (keys mapping).Nodup → ofEntries (toEntries mapping) = mapping) ∧
      ∀ entries : List (κ × α),
        toEntries (ofEntries entries) =
            ((entries.map Prod.fst).eraseDups.filterMap fun key =>
              (entries.filter fun entry => entry.1 = key).getLast?) ∧
          (toEntries (ofEntries entries) = entries ↔ (entries.map Prod.fst).Nodup) ∧
          ∀ more : List (κ × α),
            ofEntries (entries ++ more) = assignAll (ofEntries entries) (ofEntries more) := by
  refine ⟨fun mapping distinct => ofEntries_eq_self distinct, fun entries =>
    ⟨toEntries_ofEntries entries, ⟨fun same => ?_, ofEntries_eq_self⟩, fun more => ?_⟩⟩
  · have distinct := nodup_keys_ofEntries entries
    rw [toEntries] at same
    rwa [same] at distinct
  · rw [assignAll_ofEntries (nodup_keys_ofEntries entries), ofEntries, assignAll,
      List.foldl_append]
    rfl

/-- A repeated attribute keeps its first place and its last value, which an update replaces. -/
theorem entries_round_trip_repeated :
    (keys [("r", "1"), ("d", "2")]).Nodup ∧
      ofEntries (toEntries [("r", "1"), ("d", "2")]) = [("r", "1"), ("d", "2")] ∧
      toEntries (ofEntries [("d", "M0 0"), ("fill", "none"), ("d", "M1 1")]) =
        [("d", "M1 1"), ("fill", "none")] ∧
      ofEntries [("d", "M0 0"), ("fill", "none"), ("d", "M1 1"), ("r", "1"), ("fill", "red")] =
        [("d", "M1 1"), ("fill", "red"), ("r", "1")] := by
  have mapping := entries_round_trip.1 [("r", "1"), ("d", "2")] (by decide)
  obtain ⟨kept, -, updated⟩ := entries_round_trip.2 [("d", "M0 0"), ("fill", "none"), ("d", "M1 1")]
  exact ⟨by decide, mapping, kept.trans (by decide),
    (updated [("r", "1"), ("fill", "red")]).trans (by decide)⟩

end SvgComponent.Mapping
