import Catalogue.Proofs.Setting.Layering

/-!
# What a merge is made of

Layers are written one entry after the other, so a merge is one layer of all their entries
(`Settings.foldl_layer`), and its keys stand in the order in which they appear first
(`Settings.keys_merge`).  Of the values under a key, the last one counts if it is no mapping.
Otherwise it is laid over those before it, down to the last value that is no mapping, so what stands
under the key is a merge again, of the mappings at the end (`Setting.stacked_of_isMapping`).

A layer that is laid down a second time finds its values where it has left them, and so do the
mappings in it, so nothing changes (`Setting.layer_layer`).  All this is of mappings that are
written out: a mapping inside of itself has no end to which it could be followed.
-/

namespace Catalogue

namespace Settings

/-- A mapping with different keys, none of whose values is a mapping around it, and so for the
mappings in it. -/
inductive IsWrittenOut : Settings → Prop
  | intro {entries : Settings} (distinct : entries.Distinct)
      (whole : ∀ entry ∈ entries, entry.2 ≠ .again true)
      (inner : ∀ key below, (key, Setting.mapping below) ∈ entries → IsWrittenOut below) :
      IsWrittenOut entries

theorem IsWrittenOut.distinct {entries : Settings} (h : entries.IsWrittenOut) :
    entries.Distinct := by
  obtain ⟨hdistinct, -, -⟩ := h
  exact hdistinct

/-- Whether two scalars are the same key. -/
def sameKey (key other : Scalar) : Bool :=
  key.keyForm = other.keyForm

/-- Each of some keys once, where it appears first and as it is written there. -/
def firstKeys (keys : List Scalar) : List Scalar :=
  keys.eraseDupsBy sameKey

/-- The keys that a mapping does not have. -/
def newKeys (base : Settings) (keys : List Scalar) : List Scalar :=
  keys.filter fun key => key.keyForm ∉ base.keys.map Scalar.keyForm

/-- A layer adds the keys that are new. -/
theorem keys_layer (base : Settings) (entries : List (Scalar × Setting)) :
    (Setting.layer base entries).keys = base.keys ++ firstKeys (newKeys base (keys entries)) := by
  induction entries generalizing base with
  | nil => simp [Setting.layer, newKeys, firstKeys, keys]
  | cons entry rest ih =>
      obtain ⟨key, v⟩ := entry
      have hcons : keys ((key, v) :: rest) = key :: keys rest := rfl
      rw [Setting.layer, ih, hcons]
      by_cases hmem : key.keyForm ∈ base.keys.map Scalar.keyForm
      · have hput : ∀ w, (base.put key w).keys = base.keys := by
          intro w
          rw [keys_put, ← map_keyForm_keys, if_pos hmem]
        have hnew : newKeys base (key :: keys rest) = newKeys base (keys rest) :=
          List.filter_cons_of_neg (by simpa only [decide_eq_true_eq, not_not] using hmem)
        rw [hnew, newKeys, hput]
        rfl
      · have hput : ∀ w, (base.put key w).keys = base.keys ++ [key] := by
          intro w
          rw [keys_put, ← map_keyForm_keys, if_neg hmem]
        have hnew : newKeys base (key :: keys rest) = key :: newKeys base (keys rest) :=
          List.filter_cons_of_pos (by simpa only [decide_eq_true_eq] using hmem)
        have hrest : ∀ w, newKeys (base.put key w) (keys rest) =
            (newKeys base (keys rest)).filter fun other => decide (sameKey other key = false) := by
          intro w
          rw [newKeys, newKeys, hput, List.filter_filter]
          refine List.filter_congr fun other _ => ?_
          simp [sameKey, Bool.and_comm]
        rw [hput, hrest, hnew, firstKeys, firstKeys, List.eraseDupsBy_cons, List.append_assoc]
        rfl

/-- Entries are layered one after another. -/
theorem layer_append (base : Settings) (entries more : List (Scalar × Setting)) :
    Setting.layer base (entries ++ more) = Setting.layer (Setting.layer base entries) more := by
  induction entries generalizing base with
  | nil => rfl
  | cons entry rest ih =>
      rw [List.cons_append, Setting.layer, Setting.layer, ih]

/-- Layers can be laid down as one. -/
theorem foldl_layer (base : Settings) (layers : List Settings) :
    layers.foldl Setting.layer base = Setting.layer base layers.flatten := by
  induction layers generalizing base with
  | nil => rfl
  | cons entries layers ih => rw [List.foldl_cons, ih, List.flatten_cons, layer_append]

/-- **The keys of a merge** stand in the order in which they appear first. -/
theorem keys_merge (layers : List Settings) :
    (merge layers).keys = firstKeys (layers.flatMap keys) := by
  have hkeys : keys layers.flatten = layers.flatMap keys := by
    rw [keys, List.map_flatten, List.flatMap_def]
    rfl
  have hnew : newKeys [] (keys layers.flatten) = keys layers.flatten :=
    List.filter_eq_self.mpr (by simp [keys])
  rw [merge, foldl_layer, keys_layer, hnew, hkeys]
  rfl

/-- Writing what stands there already changes nothing. -/
theorem put_of_get? {key : Scalar} {v : Setting} {entries : Settings}
    (h : entries.get? key = some v) : entries.put key v = entries := by
  induction entries with
  | nil => cases h
  | cons entry rest ih =>
      rw [get?_cons] at h
      rw [put]
      by_cases hunder : entry.1.keyForm = key.keyForm
      · rw [if_pos hunder] at h
        rw [if_pos (isUnder_iff.mpr hunder), ← Option.some.inj h]
      · rw [if_neg hunder] at h
        rw [if_neg (mt isUnder_iff.mp hunder), ih h]

/-- Writing under a new key puts the entry at the end. -/
theorem put_of_get?_eq_none {key : Scalar} {entries : Settings} (h : entries.get? key = none)
    (v : Setting) : entries.put key v = entries ++ [(key, v)] := by
  induction entries with
  | nil => rfl
  | cons entry rest ih =>
      rw [get?_cons] at h
      by_cases hunder : entry.1.keyForm = key.keyForm
      · rw [if_pos hunder] at h
        cases h
      · rw [if_neg hunder] at h
        rw [put, if_neg (mt isUnder_iff.mp hunder), ih h, List.cons_append]

/-- In a mapping with different keys every entry is found under its key. -/
theorem Distinct.get?_of_mem {entries : Settings} (h : entries.Distinct) {key : Scalar}
    {v : Setting} (hmem : (key, v) ∈ entries) : entries.get? key = some v := by
  induction entries with
  | nil => cases hmem
  | cons entry rest ih =>
      obtain ⟨hfresh, hrest⟩ := List.nodup_cons.mp h
      rw [get?_cons]
      rcases List.mem_cons.mp hmem with rfl | hmem
      · rw [if_pos rfl]
      · have hne : entry.1.keyForm ≠ key.keyForm := by
          intro hsame
          apply hfresh
          show entry.1.keyForm ∈ rest.map (·.1.keyForm)
          rw [hsame]
          exact List.mem_map_of_mem hmem
        rw [if_neg hne, ih hrest hmem]

end Settings

namespace Setting

/-- A layer whose values are in place, as they are on top of what stands there, changes nothing. -/
theorem layer_eq_self {base : Settings} {entries : List (Scalar × Setting)}
    (h : ∀ key v, (key, v) ∈ entries → base.get? key = some (above (base.get? key) v)) :
    layer base entries = base := by
  induction entries with
  | nil => rfl
  | cons entry rest ih =>
      obtain ⟨key, v⟩ := entry
      have hplace := h key v List.mem_cons_self
      rw [layer, Settings.put_of_get? hplace]
      exact ih fun other w hmem => h other w (List.mem_cons_of_mem _ hmem)

/-- A mapping takes the place of a value that is none. -/
theorem above_mapping {lower : Option Setting} (h : ∀ base, lower ≠ some (.mapping base))
    (entries : Settings) : above lower (.mapping entries) = .mapping entries := by
  unfold above
  split
  · next base => exact absurd rfl (h base)
  · rfl

/-- On nothing, a value is itself. -/
theorem above_none (v : Setting) : above none v = v := by
  cases v with
  | mapping entries => exact above_mapping (by simp) entries
  | _ => rfl

/-- A layer whose keys are all new follows what stands there. -/
theorem layer_eq_append {base : Settings} {entries : List (Scalar × Setting)}
    (h : Settings.Distinct (base ++ entries)) : layer base entries = base ++ entries := by
  induction entries generalizing base with
  | nil => rw [layer, List.append_nil]
  | cons entry rest ih =>
      obtain ⟨key, v⟩ := entry
      have hnone : base.get? key = none := by
        rw [← Option.not_isSome_iff_eq_none, Settings.isSome_get?_iff]
        intro hmem
        rw [Settings.Distinct, List.map_append] at h
        exact (List.nodup_append.mp h).2.2 _ hmem _ (List.mem_map_of_mem List.mem_cons_self) rfl
      have hcons : base ++ (key, v) :: rest = base ++ [(key, v)] ++ rest := by simp
      rw [layer, hnone, above_none, Settings.put_of_get?_eq_none hnone, hcons]
      exact ih (hcons ▸ h)

/-- What is laid over nothing stays as it is. -/
theorem layer_nil {entries : Settings} (h : entries.Distinct) : layer [] entries = entries :=
  layer_eq_append h

/-- Laid over itself, a value changes nothing, if the mapping that it may be changes nothing. -/
theorem above_above {v : Setting} (h : ∀ below, v = .mapping below →
    Settings.Distinct below ∧ ∀ base, layer (layer base below) below = layer base below)
    (lower : Option Setting) : above (some (above lower v)) v = above lower v := by
  cases v with
  | mapping below =>
      obtain ⟨hdistinct, hlayer⟩ := h below rfl
      by_cases hlower : ∃ base, lower = some (.mapping base)
      · obtain ⟨base, rfl⟩ := hlower
        exact congrArg mapping (hlayer base)
      · have hself : layer below below = below := by
          have hnil := hlayer []
          rwa [layer_nil hdistinct] at hnil
        rw [above_mapping (not_exists.mp hlower)]
        exact congrArg mapping hself
  | _ => rfl

/-- **A layer on itself** changes nothing, whatever stands below it. -/
theorem layer_layer {entries : Settings} (h : entries.IsWrittenOut) (base : Settings) :
    layer (layer base entries) entries = layer base entries := by
  induction h generalizing base with
  | @intro entries hdistinct _ hinner ih =>
      apply layer_eq_self
      intro key v hmem
      have hplace : (layer base entries).get? key = some (above (base.get? key) v) := by
        rw [get?_layer hdistinct, hdistinct.get?_of_mem hmem]
        rfl
      rw [hplace, above_above]
      intro below hbelow
      subst hbelow
      exact ⟨(hinner key below hmem).distinct, ih key below hmem⟩

instance : DecidablePred IsMapping
  | .mapping _ => isTrue trivial
  | .again isMapping => inferInstanceAs (Decidable (isMapping = true))
  | .scalar _ => isFalse id
  | .list _ => isFalse id
  | .pairs _ => isFalse id
  | .set _ => isFalse id

/-- The entries of a mapping. -/
def entries : Setting → Settings
  | .mapping entries => entries
  | _ => []

/-- The longest run of mappings at the end of some values. -/
def finalMappings (values : List Setting) : List Settings :=
  (values.rtakeWhile (·.IsMapping)).map entries

theorem finalMappings_concat {v : Setting} (h : v.IsMapping) (values : List Setting) :
    finalMappings (values ++ [v]) = finalMappings values ++ [v.entries] := by
  rw [finalMappings, List.rtakeWhile_concat_pos _ _ _ (by simpa using h), List.map_append]
  rfl

theorem finalMappings_of_getLast? {values : List Setting}
    (h : ∀ v, values.getLast? = some v → ¬ v.IsMapping) : finalMappings values = [] := by
  rcases List.eq_nil_or_concat' values with rfl | ⟨before, v, rfl⟩
  · rfl
  · rw [finalMappings, List.rtakeWhile_concat_neg _ _ _ (by simpa using h v (by simp))]
    rfl

/-- A mapping that is written out has its entries. -/
theorem eq_mapping_entries {v : Setting} (h : v.IsMapping) (hwhole : v ≠ .again true) :
    v = .mapping v.entries := by
  cases v with
  | mapping entries => rfl
  | again isMapping =>
      have htrue : isMapping = true := h
      exact absurd (congrArg again htrue) hwhole
  | _ => exact absurd h id

/-- Values of which the last one is no mapping are no mapping together. -/
theorem stacked_ne_mapping {values : List Setting}
    (h : ∀ v, values.getLast? = some v → ¬ v.IsMapping) (base : Settings) :
    stacked values none ≠ some (.mapping base) := by
  intro hbase
  cases hlast : values.getLast? with
  | none =>
      rw [List.getLast?_eq_none_iff.mp hlast] at hbase
      cases hbase
  | some v =>
      rw [stacked_of_getLast? hlast (h v hlast)] at hbase
      apply h v hlast
      rw [Option.some.inj hbase]
      trivial

/-- **Mappings at the end** of some values are merged. -/
theorem stacked_of_isMapping {values : List Setting} (hwhole : ∀ v ∈ values, v ≠ .again true)
    (hdistinct : ∀ v ∈ values, Settings.Distinct v.entries) {v : Setting}
    (hlast : values.getLast? = some v) (hv : v.IsMapping) :
    stacked values none = some (.mapping (Settings.merge (finalMappings values))) := by
  induction values using List.reverseRecOn generalizing v with
  | nil => cases hlast
  | append_singleton values u ih =>
      obtain rfl : u = v := by simpa using hlast
      have hbefore : ∀ w ∈ values, w ∈ values ++ [u] := fun w => List.mem_append_left [u]
      have hmem : u ∈ values ++ [u] := List.mem_append_right values List.mem_cons_self
      have hmapping : u = .mapping u.entries := eq_mapping_entries hv (hwhole u hmem)
      have hstacked : stacked (values ++ [u]) none = some (above (stacked values none) u) := by
        rw [stacked, List.foldl_concat]
        rfl
      rw [hstacked, finalMappings_concat hv, Settings.merge, List.foldl_concat, ← Settings.merge]
      by_cases hrun : ∃ w, values.getLast? = some w ∧ w.IsMapping
      · -- The run goes on before the last value, where the values are merged already.
        obtain ⟨w, hw, hisMapping⟩ := hrun
        have hlower := ih (fun w hw => hwhole w (hbefore w hw))
          (fun w hw => hdistinct w (hbefore w hw)) hw hisMapping
        rw [hlower, hmapping]
        rfl
      · -- The run begins with the last value, which covers what is below it.
        have hend : ∀ w, values.getLast? = some w → ¬ w.IsMapping :=
          fun w hw hisMapping => hrun ⟨w, hw, hisMapping⟩
        have hmerge : Settings.merge (finalMappings values) = [] := by
          rw [finalMappings_of_getLast? hend]
          rfl
        rw [hmerge, layer_nil (hdistinct u hmem), hmapping, above_mapping (stacked_ne_mapping hend)]
        rfl

end Setting

namespace Settings

/-- The values under a key in those layers that have it, lowest first. -/
def valuesUnder (key : Scalar) (layers : List Settings) : List Setting :=
  layers.filterMap (get? key)

/-- What a mapping has to be to be the merge of some layers. -/
structure IsMergeOf (layers : List Settings) (merged : Settings) : Prop where
  /-- The keys stand in the order in which they appear first. -/
  ordered : merged.keys = firstKeys (layers.flatMap keys)
  /-- A key is there exactly if a layer has it. -/
  present : ∀ key, (merged.get? key).isSome ↔ ∃ entries ∈ layers, (get? key entries).isSome
  /-- The last value under a key counts if it is no mapping. -/
  last : ∀ key v, (valuesUnder key layers).getLast? = some v → ¬ v.IsMapping →
    merged.get? key = some v
  /-- If it is one, the longest run of mappings at the end is merged. -/
  mappings : ∀ key v, (valuesUnder key layers).getLast? = some v → v.IsMapping →
    merged.get? key = some (.mapping (merge (Setting.finalMappings (valuesUnder key layers))))

/-- What stands under a key of a mapping that is written out is written out. -/
theorem IsWrittenOut.of_get? {entries : Settings} (h : entries.IsWrittenOut) {key : Scalar}
    {v : Setting} (hv : entries.get? key = some v) :
    v ≠ .again true ∧ Distinct v.entries := by
  obtain ⟨-, hwhole, hinner⟩ := h
  obtain ⟨⟨k, u⟩, hentry, rfl⟩ := Option.map_eq_some_iff.mp hv
  have hmem : (k, u) ∈ entries := List.mem_of_find?_eq_some hentry
  refine ⟨hwhole _ hmem, ?_⟩
  cases u with
  | mapping below => exact (hinner k below hmem).distinct
  | _ => exact distinct_nil

/-- **Merging.**  A merge of mappings that are written out has the keys of its layers, in the order
in which they appear first.  Under each stands the last value, or the merge of the run of mappings
at the end.  A layer that is laid down twice in a row changes nothing. -/
theorem merge_isMergeOf {layers : List Settings} (h : ∀ entries ∈ layers, entries.IsWrittenOut) :
    IsMergeOf layers (merge layers) ∧
      ∀ before entries after, layers = before ++ entries :: after →
        merge (before ++ entries :: entries :: after) = merge layers := by
  have hdistinct : ∀ entries ∈ layers, entries.Distinct :=
    fun entries hentries => (h entries hentries).distinct
  have hvalues : ∀ key, ∀ v ∈ valuesUnder key layers, v ≠ .again true ∧ Distinct v.entries := by
    intro key v hv
    obtain ⟨entries, hentries, hget⟩ := List.mem_filterMap.mp hv
    exact (h entries hentries).of_get? hget
  constructor
  · exact
      { ordered := keys_merge layers
        present := isSome_get?_merge_iff hdistinct
        last := by
          intro key v hlast hv
          rw [get?_merge hdistinct]
          exact Setting.stacked_of_getLast? hlast hv none
        mappings := by
          intro key v hlast hv
          rw [get?_merge hdistinct]
          exact Setting.stacked_of_isMapping (fun w hw => (hvalues key w hw).1)
            (fun w hw => (hvalues key w hw).2) hlast hv }
  · intro before entries after hlayers
    have hentries : entries.IsWrittenOut := by
      apply h
      rw [hlayers]
      exact List.mem_append_right before List.mem_cons_self
    rw [hlayers, merge, merge, List.foldl_append, List.foldl_append, List.foldl_cons,
      List.foldl_cons, List.foldl_cons, Setting.layer_layer hentries]

/-- Layers with a shelf each: one with poems, none, and two whose poems come together. -/
def shelfLayers : List Settings := [
  [(.text "shelf", .mapping [(.text "poems", .scalar (.int 1))])],
  [(.text "shelf", .null)],
  [(.text "shelf", .mapping [(.text "poems", .mapping [(.text "new", .scalar (.int 2))])])],
  [(.text "shelf", .mapping [(.text "poems", .mapping [(.text "old", .scalar (.int 3))])])]]

/-- A null between mappings cuts the merge. -/
theorem merge_isMergeOf_shelf :
    (∀ entries ∈ shelfLayers, entries.IsWrittenOut) ∧
      IsMergeOf shelfLayers (merge shelfLayers) ∧
      get? (.text "shelf") (merge shelfLayers) = some (.mapping [(.text "poems",
        .mapping [(.text "new", .scalar (.int 2)), (.text "old", .scalar (.int 3))])]) := by
  have hscalar : ∀ key s, IsWrittenOut [(key, .scalar s)] := fun key s =>
    .intro (List.nodup_singleton _) (by simp) (by simp)
  have hmapping : ∀ key below, IsWrittenOut below → IsWrittenOut [(key, .mapping below)] := by
    intro key below hbelow
    refine .intro (List.nodup_singleton _) (by simp) fun other entries hmem => ?_
    simp only [List.mem_singleton, Prod.mk.injEq, Setting.mapping.injEq] at hmem
    exact hmem.2 ▸ hbelow
  have hwritten : ∀ entries ∈ shelfLayers, entries.IsWrittenOut := by
    simp only [shelfLayers, List.forall_mem_cons]
    exact ⟨hmapping _ _ (hscalar _ _), hscalar _ _, hmapping _ _ (hmapping _ _ (hscalar _ _)),
      hmapping _ _ (hmapping _ _ (hscalar _ _)), List.forall_mem_nil _⟩
  obtain ⟨hmerge, -⟩ := merge_isMergeOf hwritten
  exact ⟨hwritten, hmerge, hmerge.mappings (.text "shelf") _ rfl trivial⟩

end Settings

end Catalogue
