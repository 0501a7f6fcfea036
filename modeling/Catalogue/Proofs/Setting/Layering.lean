import Mathlib
import Catalogue.Setting

/-!
# What stands under a key

Writing an entry changes what stands under its key and under no other one (`get?_put`), and keeps
the keys of a mapping different (`Distinct.put`).  A mapping that is laid over another one decides
what stands under its own keys (`get?_layer`).  So under every key of a merge stand the values that
the layers have under this key, laid over each other (`get?_merge`), and the last one of them alone
if it is no mapping (`get?_merge_of_findSome?`).
-/

namespace Catalogue

namespace Settings

theorem isUnder_iff {key : Scalar} {entry : Scalar × Setting} :
    isUnder key entry = true ↔ entry.1.keyForm = key.keyForm :=
  decide_eq_true_iff

/-- The first entry under a key counts. -/
theorem get?_cons (key : Scalar) (entry : Scalar × Setting) (rest : Settings) :
    get? key (entry :: rest) =
      if entry.1.keyForm = key.keyForm then some entry.2 else get? key rest := by
  rw [get?, List.find?_cons]
  by_cases hunder : entry.1.keyForm = key.keyForm
  · rw [if_pos hunder, isUnder_iff.mpr hunder]
    rfl
  · have hother : isUnder key entry = false := by
      rw [← Bool.not_eq_true, isUnder_iff]
      exact hunder
    rw [if_neg hunder, hother, get?]

/-- A key has a value exactly if it is the key of an entry. -/
theorem isSome_get?_iff {key : Scalar} {entries : Settings} :
    (get? key entries).isSome ↔ key.keyForm ∈ entries.map (·.1.keyForm) := by
  induction entries with
  | nil => simp [get?]
  | cons entry rest ih =>
      rw [get?_cons, List.map_cons, List.mem_cons]
      by_cases hunder : entry.1.keyForm = key.keyForm
      · simp [hunder]
      · rw [if_neg hunder, ih, or_iff_right (Ne.symm hunder)]

/-- The entries of a mapping have different keys. -/
def Distinct (entries : Settings) : Prop :=
  (entries.map (·.1.keyForm)).Nodup

theorem distinct_nil : Distinct [] :=
  List.nodup_nil

/-- Keys of one form stand for the same entry. -/
theorem get?_congr {key other : Scalar} (h : key.keyForm = other.keyForm) (entries : Settings) :
    get? key entries = get? other entries := by
  induction entries with
  | nil => rfl
  | cons entry rest ih => rw [get?_cons, get?_cons, h, ih]

/-- **Writing** changes what stands under the key that is written, and nothing else. -/
theorem get?_put (key other : Scalar) (value : Setting) (entries : Settings) :
    get? other (put key value entries) =
      if key.keyForm = other.keyForm then some value else get? other entries := by
  induction entries with
  | nil => rw [put, get?_cons]
  | cons entry rest ih =>
      rw [put]
      by_cases hunder : entry.1.keyForm = key.keyForm
      · rw [if_pos (isUnder_iff.mpr hunder), get?_cons, get?_cons, hunder]
        by_cases hsame : key.keyForm = other.keyForm
        · rw [if_pos hsame, if_pos hsame]
        · rw [if_neg hsame, if_neg hsame, if_neg hsame]
      · rw [if_neg (mt isUnder_iff.mp hunder), get?_cons, get?_cons, ih]
        by_cases hsame : key.keyForm = other.keyForm
        · have hother : entry.1.keyForm ≠ other.keyForm := fun h => hunder (h.trans hsame.symm)
          rw [if_neg hother, if_pos hsame, if_pos hsame]
        · rw [if_neg hsame, if_neg hsame]

/-- The keys of a mapping, in order. -/
def keys (entries : Settings) : List Scalar :=
  entries.map (·.1)

theorem map_keyForm_keys (entries : Settings) :
    entries.keys.map Scalar.keyForm = entries.map (·.1.keyForm) :=
  List.map_map

/-- A new key goes to the end. -/
theorem keys_put (key : Scalar) (value : Setting) (entries : Settings) :
    (put key value entries).keys =
      if key.keyForm ∈ entries.map (·.1.keyForm) then entries.keys else entries.keys ++ [key] := by
  induction entries with
  | nil => rfl
  | cons entry rest ih =>
      rw [put]
      by_cases hunder : entry.1.keyForm = key.keyForm
      · rw [if_pos (isUnder_iff.mpr hunder), List.map_cons, hunder, if_pos List.mem_cons_self]
        rfl
      · have hmem : key.keyForm ∈ (entry :: rest).map (·.1.keyForm) ↔
            key.keyForm ∈ rest.map (·.1.keyForm) := by
          rw [List.map_cons, List.mem_cons, or_iff_right (Ne.symm hunder)]
        have hcons : keys (entry :: put key value rest) =
            entry.1 :: (put key value rest).keys := rfl
        rw [if_neg (mt isUnder_iff.mp hunder), hcons, ih]
        by_cases hrest : key.keyForm ∈ rest.map (·.1.keyForm)
        · rw [if_pos hrest, if_pos (hmem.mpr hrest)]
          rfl
        · rw [if_neg hrest, if_neg (mt hmem.mp hrest)]
          rfl

/-- Writing keeps the keys different. -/
theorem Distinct.put {entries : Settings} (h : entries.Distinct) (key : Scalar) (value : Setting) :
    (entries.put key value).Distinct := by
  rw [Distinct, ← map_keyForm_keys, keys_put]
  by_cases hmem : key.keyForm ∈ entries.map (·.1.keyForm)
  · rw [if_pos hmem, map_keyForm_keys]
    exact h
  · rw [if_neg hmem, List.map_append, map_keyForm_keys, List.map_singleton,
      ← List.concat_eq_append]
    exact h.concat hmem

end Settings

namespace Setting

/-- A value is a mapping, also one inside of itself that is not written out again. -/
def IsMapping : Setting → Prop
  | .mapping _ => True
  | .again isMapping => isMapping = true
  | _ => False

/-- A value that is no mapping takes the place of the lower one. -/
theorem above_of_not_isMapping {v : Setting} (h : ¬ v.IsMapping) (lower : Option Setting) :
    above lower v = v := by
  cases v with
  | mapping entries => exact absurd trivial h
  | _ => rfl

/-- **A layer** decides what stands under its keys, and leaves the others alone. -/
theorem get?_layer {entries : Settings} (h : entries.Distinct) (base : Settings) (key : Scalar) :
    (layer base entries).get? key =
      (entries.get? key).elim (base.get? key) fun v => some (above (base.get? key) v) := by
  induction entries generalizing base with
  | nil => rfl
  | cons entry rest ih =>
      obtain ⟨k, v⟩ := entry
      obtain ⟨hfresh, hrest⟩ := List.nodup_cons.mp h
      rw [layer, ih hrest, Settings.get?_put, Settings.get?_cons]
      by_cases hsame : k.keyForm = key.keyForm
      · -- The keys are different, so nothing after this entry stands under its key.
        have hnone : Settings.get? key rest = none := by
          rw [← Option.not_isSome_iff_eq_none, Settings.isSome_get?_iff, ← hsame]
          exact hfresh
        rw [if_pos hsame, if_pos hsame, hnone, Settings.get?_congr hsame]
        rfl
      · rw [if_neg hsame, if_neg hsame]

/-- Values laid over each other, the last one on top. -/
def stacked (values : List Setting) (lowest : Option Setting) : Option Setting :=
  values.foldl (fun lower v => some (above lower v)) lowest

/-- There is a value on top if there is one at all. -/
theorem isSome_stacked (values : List Setting) (lowest : Option Setting) :
    (stacked values lowest).isSome ↔ values ≠ [] ∨ lowest.isSome := by
  induction values using List.reverseRecOn with
  | nil => simp [stacked]
  | append_singleton values v _ => simp [stacked]

/-- The value on top is the last one if it is no mapping. -/
theorem stacked_of_getLast? {values : List Setting} {v : Setting} (h : values.getLast? = some v)
    (hv : ¬ v.IsMapping) (lowest : Option Setting) : stacked values lowest = some v := by
  obtain ⟨before, rfl⟩ := List.getLast?_eq_some_iff.mp h
  rw [stacked, List.foldl_concat, above_of_not_isMapping hv]

end Setting

namespace Settings

variable {layers : List Settings} (h : ∀ entries ∈ layers, entries.Distinct)

include h

/-- **All layers.**  Under a key of mappings laid over each other stand their values under it, laid
over each other. -/
theorem get?_foldl_layer (key : Scalar) (base : Settings) :
    get? key (layers.foldl Setting.layer base) =
      Setting.stacked (layers.filterMap (get? key)) (get? key base) := by
  induction layers generalizing base with
  | nil => rfl
  | cons entries layers ih =>
      obtain ⟨hentries, hlayers⟩ := List.forall_mem_cons.mp h
      rw [List.foldl_cons, ih hlayers, Setting.get?_layer hentries, List.filterMap_cons]
      cases get? key entries <;> rfl

/-- **A merge** has under every key the values of its layers, laid over each other. -/
theorem get?_merge (key : Scalar) :
    get? key (merge layers) = Setting.stacked (layers.filterMap (get? key)) none :=
  get?_foldl_layer h key []

/-- The keys of a merge are those of its layers. -/
theorem isSome_get?_merge_iff (key : Scalar) :
    (get? key (merge layers)).isSome ↔ ∃ entries ∈ layers, (get? key entries).isSome := by
  rw [get?_merge h, Setting.isSome_stacked, ne_eq, List.filterMap_eq_nil_iff]
  simp [Option.isSome_iff_ne_none]

/-- **The last layer** that has a key decides what stands under it, if its value is no mapping. -/
theorem get?_merge_of_findSome? {key : Scalar} {v : Setting}
    (hv : layers.reverse.findSome? (get? key) = some v) (hmapping : ¬ v.IsMapping) :
    get? key (merge layers) = some v := by
  have hlast : (layers.filterMap (get? key)).getLast? = some v :=
    List.getLast?_filterMap.trans hv
  rw [get?_merge h, Setting.stacked_of_getLast? hlast hmapping]

end Settings

end Catalogue
