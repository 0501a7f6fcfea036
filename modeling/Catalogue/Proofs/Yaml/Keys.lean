import Catalogue.Proofs.Outcome
import Catalogue.Proofs.Setting.Layering
import Catalogue.Yaml.Document

/-!
# The keys of a YAML mapping

The entries of a mapping are written one after the other, so a key that occurs again is written over
and the keys of the setting are different (`distinct_keyed`).  This is so of every mapping that a
node stands for, also of those that are made once and used under a name, and so it is of a document
(`distinct_of_read`).
-/

namespace Catalogue.Yaml

open Settings (Distinct)

/-- If a setting is a mapping, its keys are different. -/
def HasDistinctKeys (v : Setting) : Prop :=
  ∀ entries, v = .mapping entries → Distinct entries

theorem hasDistinctKeys_mapping {entries : Settings} :
    HasDistinctKeys (.mapping entries) ↔ Distinct entries :=
  ⟨fun h => h entries rfl, fun h _ hsame => Setting.mapping.inj hsame ▸ h⟩

/-- What is no mapping has no keys. -/
theorem hasDistinctKeys_of_ne {v : Setting} (h : ∀ entries, v ≠ .mapping entries) :
    HasDistinctKeys v :=
  fun entries hsame => absurd hsame (h entries)

namespace Node

/-- **Entries** that are written one after the other have different keys. -/
theorem distinct_keyed (named : NamedNodes) (entries : List (Node × Setting)) :
    Distinct (keyed named entries) := by
  induction entries using List.reverseRecOn with
  | nil => exact Settings.distinct_nil
  | append_singleton entries entry ih =>
      rw [keyed, List.foldl_concat]
      exact Distinct.put ih _ _

/-- All settings that are known have different keys. -/
def AllDistinct (known : KnownSettings) : Prop :=
  ∀ name v, known.lookup name = some v → HasDistinctKeys v

theorem exists_lookup_of_known? {known : KnownSettings} {node : Node} {v : Setting}
    (h : node.known? known = some v) : ∃ name, known.lookup name = some v := by
  unfold known? at h
  split at h
  · exact ⟨_, h⟩
  · cases h

/-- What is known of a node is the setting that it stands for. -/
theorem setting_of_known? {known : KnownSettings} {node : Node} {v : Setting}
    (h : node.known? known = some v) (named : NamedNodes) (fuel : Nat) (around : List Nat) :
    setting named known fuel around node = v := by
  unfold setting
  simp only [h]

/-- **One node** stands for a setting with different keys, if those known before have them. -/
theorem hasDistinctKeys_setting {known : KnownSettings} (h : AllDistinct known) (named : NamedNodes)
    (fuel : Nat) (around : List Nat) (node : Node) :
    HasDistinctKeys (setting named known fuel around node) := by
  cases hknown : node.known? known with
  | some v =>
      obtain ⟨name, hname⟩ := exists_lookup_of_known? hknown
      rw [setting_of_known? hknown]
      exact h name v hname
  | none =>
      unfold setting
      simp only [hknown]
      cases fuel with
      | zero => exact hasDistinctKeys_of_ne nofun
      | succ fuel =>
          dsimp only
          split
          · cases ((named.resolve node).scalar named).toOption with
            | none => exact hasDistinctKeys_of_ne nofun
            | some s => exact hasDistinctKeys_of_ne nofun
          · split
            · exact hasDistinctKeys_of_ne nofun
            · split
              -- A list, pairs and a set have no keys, and what is left is a mapping.
              · exact hasDistinctKeys_of_ne nofun
              · exact hasDistinctKeys_of_ne nofun
              · exact hasDistinctKeys_of_ne nofun
              · exact hasDistinctKeys_mapping.mpr (distinct_keyed named _)

end Node

namespace NamedNodes

open Node (AllDistinct)

/-- Learning one more setting keeps all keys different. -/
theorem allDistinct_learn {known : KnownSettings} (h : AllDistinct known) (named : NamedNodes)
    (entry : String × Node) : AllDistinct (named.learn known entry) := by
  rw [learn]
  split
  · intro name v hv
    rw [List.lookup_cons] at hv
    cases hname : name == entry.1 with
    | true =>
        rw [hname] at hv
        rw [← Option.some.inj hv]
        exact Node.hasDistinctKeys_setting h named _ _ _
    | false =>
        rw [hname] at hv
        exact h name v hv
  · exact h

/-- **Named nodes** stand for settings with different keys. -/
theorem allDistinct_known (named : NamedNodes) : AllDistinct named.known := by
  have hfold : ∀ (entries : List (String × Node)) (known : KnownSettings), AllDistinct known →
      AllDistinct (entries.foldl (learn named) known) := by
    intro entries
    induction entries with
    | nil => exact fun known h => h
    | cons entry entries ih =>
        exact fun known h => ih _ (allDistinct_learn h named entry)
  refine hfold _ [] fun name v hv => ?_
  cases hv

end NamedNodes

/-- **The setting of a node** has different keys. -/
theorem hasDistinctKeys_of_toSetting {node : Node} {named : NamedNodes} {v : Setting}
    (h : node.toSetting named = .ok v) : HasDistinctKeys v := by
  rw [Node.toSetting] at h
  obtain ⟨⟨_, checked⟩, -, hsetting⟩ := bind_eq_ok_iff.mp h
  dsimp only at hsetting
  split at hsetting
  · rw [← Except.ok.inj hsetting]
    exact hasDistinctKeys_mapping.mpr (Node.distinct_keyed checked _)
  · rw [← Except.ok.inj hsetting]
    exact Node.hasDistinctKeys_setting (NamedNodes.allDistinct_known checked) checked _ _ _

/-- **A document** that is a mapping has different keys. -/
theorem distinct_of_read {maxDepth : Nat} {bytes : List UInt8} {entries : Settings}
    (h : read maxDepth bytes = .ok (.mapping entries)) : Distinct entries := by
  rw [read] at h
  obtain ⟨⟨node, found⟩, -, hsetting⟩ := bind_eq_ok_iff.mp h
  exact hasDistinctKeys_mapping.mp (hasDistinctKeys_of_toSetting hsetting)

end Catalogue.Yaml
