import LineTemplate.Variables

/-!
Looking up a name. What is found is the value of an entry whose name is the same up to case, and
only then is something found.
-/

namespace LineTemplate.Variables

theorem entry_of_lookup {bindings : Variables} {word : String} {value : Value}
    (found : bindings.lookup? word = some value) :
    ∃ name, (name, value) ∈ bindings.entries ∧ Text.equalIgnoringCase name word = true := by
  rw [Variables.lookup?] at found
  split at found
  · next exact exactly =>
      cases found
      obtain ⟨entry, first, rfl⟩ := Option.map_eq_some_iff.mp exactly
      have named := List.find?_some first
      rw [beq_iff_eq] at named
      refine ⟨entry.1, List.mem_of_find?_eq_some first, ?_⟩
      rw [named, Text.equal_ignoring_case_refl]
  · obtain ⟨entry, first, rfl⟩ := Option.map_eq_some_iff.mp found
    have same := List.find?_some first
    exact ⟨entry.1, List.mem_of_find?_eq_some first, same⟩

theorem lookup_of_unknown {bindings : Variables} {word : String}
    (unknown : ∀ name ∈ bindings.names, Text.equalIgnoringCase name word = false) :
    bindings.lookup? word = none := by
  cases found : bindings.lookup? word with
  | none => rfl
  | some value =>
      obtain ⟨name, member, same⟩ := entry_of_lookup found
      rw [unknown name (List.mem_map_of_mem member)] at same
      cases same

theorem lookup_of_known {bindings : Variables} {word : String}
    (known : ∃ name ∈ bindings.names, Text.equalIgnoringCase name word = true) :
    ∃ value, bindings.lookup? word = some value := by
  obtain ⟨name, member, same⟩ := known
  obtain ⟨entry, listed, rfl⟩ := List.mem_map.mp member
  rw [lookup?]
  split
  · next value _ => exact ⟨value, rfl⟩
  · have found : (bindings.entries.find? fun entry =>
        Text.equalIgnoringCase entry.1 word).isSome = true :=
      List.find?_isSome.mpr ⟨entry, listed, same⟩
    obtain ⟨first, here⟩ := Option.isSome_iff_exists.mp found
    exact ⟨first.2, by rw [here]; rfl⟩

end LineTemplate.Variables
