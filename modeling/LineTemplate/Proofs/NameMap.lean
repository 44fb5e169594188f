import LineTemplate.NameMap

/-!
Maps filled in any order. An entry under a new name goes between two others and disturbs neither, so
entries under different names fill a map to the same map in whatever order they come.
-/

namespace LineTemplate.NameMap

variable {Item : Type}

theorem eq_of_perm {left right : NameMap Item} (permuted : left.entries.Perm right.entries) :
    left = right := by
  refine eq_of_entries (List.Perm.eq_of_pairwise ?_ left.sorted right.sorted permuted)
  intro first second _ _ before after
  exact absurd after (String.lt_asymm before)

theorem insert_entry_perm {name : String} (item : Item) {entries : List (String × Item)}
    (new : name ∉ entries.map Prod.fst) :
    (insertEntry name item entries).Perm ((name, item) :: entries) := by
  induction entries with
  | nil => exact List.Perm.refl _
  | cons entry rest ih =>
      rw [List.map_cons, List.mem_cons, not_or] at new
      rw [insertEntry]
      split
      · exact List.Perm.refl _
      · rw [if_neg new.1]
        exact ((ih new.2).cons entry).trans (List.Perm.swap _ _ _)

/-- The induction is over the items; with each of them the map gains an entry somewhere. -/
theorem insert_all_perm {items : List (String × Item)} {map : NameMap Item}
    (apart : ((map.entries ++ items).map Prod.fst).Nodup) :
    (map.insertAll items).entries.Perm (map.entries ++ items) := by
  induction items generalizing map with
  | nil => simp [insertAll]
  | cons item rest ih =>
      have toFront : (map.entries ++ item :: rest).Perm (item :: (map.entries ++ rest)) :=
        List.perm_middle
      have apartFront : ((item :: (map.entries ++ rest)).map Prod.fst).Nodup :=
        (toFront.map Prod.fst).nodup_iff.mp apart
      have new : item.1 ∉ map.entries.map Prod.fst := by
        rw [List.map_cons, List.nodup_cons, List.map_append, List.mem_append, not_or] at apartFront
        exact apartFront.1.1
      have gained : (map.insert item.1 item.2).entries.Perm (item :: map.entries) :=
        insert_entry_perm item.2 new
      have regrouped : ((map.insert item.1 item.2).entries ++ rest).Perm
          (item :: (map.entries ++ rest)) := gained.append_right rest
      have apartRest : (((map.insert item.1 item.2).entries ++ rest).map Prod.fst).Nodup :=
        (regrouped.map Prod.fst).nodup_iff.mpr apartFront
      exact ((ih apartRest).trans regrouped).trans toFront.symm

theorem nodup_names (map : NameMap Item) : map.names.Nodup := by
  refine List.pairwise_map.mpr (map.sorted.imp ?_)
  intro first second before same
  exact String.lt_irrefl _ (same ▸ before)

/-- The order in which the entries of a map come does not matter. -/
theorem insert_all_of_perm {items : List (String × Item)} {map : NameMap Item}
    (permuted : items.Perm map.entries) : empty.insertAll items = map := by
  have apart : (items.map Prod.fst).Nodup :=
    (permuted.map Prod.fst).nodup_iff.mpr (nodup_names map)
  exact eq_of_perm ((@insert_all_perm Item items empty apart).trans permuted)

end LineTemplate.NameMap
