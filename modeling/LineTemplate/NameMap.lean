/-!
Finite maps from names, kept sorted by name. Order is by code points, and a name occurs once, so
two maps with the same look-ups are the same map.
-/

namespace LineTemplate

structure NameMap (Item : Type) where
  entries : List (String × Item)
  sorted : entries.Pairwise fun left right => left.1 < right.1

namespace NameMap

variable {Item : Type}

def empty : NameMap Item := ⟨[], List.Pairwise.nil⟩

instance : Inhabited (NameMap Item) := ⟨empty⟩

def names (map : NameMap Item) : List String :=
  map.entries.map Prod.fst

def size (map : NameMap Item) : Nat :=
  map.entries.length

def isEmpty (map : NameMap Item) : Bool :=
  map.entries.isEmpty

def get? (map : NameMap Item) (name : String) : Option Item :=
  (map.entries.find? fun entry => entry.1 == name).map Prod.snd

def contains (map : NameMap Item) (name : String) : Bool :=
  (map.get? name).isSome

def insertEntry (name : String) (item : Item) : List (String × Item) → List (String × Item)
  | [] => [(name, item)]
  | entry :: rest =>
      if name < entry.1 then (name, item) :: entry :: rest
      else if name = entry.1 then (name, item) :: rest
      else entry :: insertEntry name item rest

theorem mem_insert_entry {name : String} {item : Item} {entries : List (String × Item)}
    {entry : String × Item} (member : entry ∈ insertEntry name item entries) :
    entry.1 = name ∨ entry ∈ entries := by
  induction entries with
  | nil =>
      simp only [insertEntry, List.mem_singleton] at member
      exact Or.inl (by rw [member])
  | cons first rest ih =>
      simp only [insertEntry] at member
      split at member
      · rcases List.mem_cons.mp member with rfl | older
        · exact Or.inl rfl
        · exact Or.inr older
      · split at member
        · rcases List.mem_cons.mp member with rfl | older
          · exact Or.inl rfl
          · exact Or.inr (List.mem_cons_of_mem _ older)
        · rcases List.mem_cons.mp member with rfl | deeper
          · exact Or.inr List.mem_cons_self
          · exact (ih deeper).imp_right (List.mem_cons_of_mem _)

theorem insert_entry_sorted (name : String) (item : Item) {entries : List (String × Item)}
    (sorted : entries.Pairwise fun left right => left.1 < right.1) :
    (insertEntry name item entries).Pairwise fun left right => left.1 < right.1 := by
  induction entries with
  | nil => simp [insertEntry]
  | cons first rest ih =>
      obtain ⟨firstLeast, restSorted⟩ := List.pairwise_cons.mp sorted
      simp only [insertEntry]
      split
      · next before =>
          refine List.pairwise_cons.mpr ⟨?_, sorted⟩
          intro entry member
          rcases List.mem_cons.mp member with rfl | later
          · exact before
          · exact String.lt_trans before (firstLeast entry later)
      · next notBefore =>
          split
          · next same =>
              exact List.pairwise_cons.mpr ⟨by simpa [same] using firstLeast, restSorted⟩
          · next different =>
              refine List.pairwise_cons.mpr ⟨?_, ih restSorted⟩
              intro entry member
              rcases mem_insert_entry member with named | older
              · rw [named]
                apply Classical.byContradiction
                intro notAfter
                exact different (String.le_antisymm (String.not_lt.mp notAfter)
                  (String.not_lt.mp notBefore))
              · exact firstLeast entry older

def insert (map : NameMap Item) (name : String) (item : Item) : NameMap Item :=
  ⟨insertEntry name item map.entries, insert_entry_sorted name item map.sorted⟩

def erase (map : NameMap Item) (name : String) : NameMap Item :=
  ⟨map.entries.filter fun entry => entry.1 != name, map.sorted.filter _⟩

/-- Later items replace earlier ones of the same name. -/
def insertAll (map : NameMap Item) (items : List (String × Item)) : NameMap Item :=
  items.foldl (fun filled item => filled.insert item.1 item.2) map

def ofList (items : List (String × Item)) : NameMap Item :=
  empty.insertAll items

theorem find_insert_entry (name other : String) (item : Item) (entries : List (String × Item)) :
    (insertEntry name item entries).find? (fun entry => entry.1 == other) =
      if name = other then some (name, item)
      else entries.find? fun entry => entry.1 == other := by
  induction entries with
  | nil =>
      by_cases same : name = other <;> simp [insertEntry, same]
  | cons first rest ih =>
      by_cases same : name = other
      · subst same
        simp only [insertEntry]
        split
        · simp
        · split
          · simp
          · next different =>
              have apart : (first.1 == name) = false := by simpa using fun equal => different equal.symm
              rw [List.find?_cons, apart]
              simpa using ih
      · simp only [insertEntry, same, if_false] at ih ⊢
        split
        · simp [List.find?_cons, same]
        · split
          · next equal =>
              have apart : (first.1 == other) = false := by simpa [← equal] using same
              simp [same, apart]
          · simp [List.find?_cons, ih]

theorem get_insert (map : NameMap Item) (name other : String) (item : Item) :
    (map.insert name item).get? other = if name = other then some item else map.get? other := by
  simp only [get?, insert, find_insert_entry]
  split <;> simp

theorem find_of_mem {name : String} {item : Item} {entries : List (String × Item)}
    (sorted : entries.Pairwise fun left right => left.1 < right.1)
    (member : (name, item) ∈ entries) :
    entries.find? (fun entry => entry.1 == name) = some (name, item) := by
  induction entries with
  | nil => exact absurd member List.not_mem_nil
  | cons entry rest ih =>
      obtain ⟨least, restSorted⟩ := List.pairwise_cons.mp sorted
      rcases List.mem_cons.mp member with rfl | later
      · simp
      · have before := least (name, item) later
        have apart : (entry.1 == name) = false := by
          rw [beq_eq_false_iff_ne]
          intro same
          rw [same] at before
          exact String.lt_irrefl _ before
        rw [List.find?_cons, apart]
        exact ih restSorted later

theorem get_of_mem {map : NameMap Item} {name : String} {item : Item}
    (member : (name, item) ∈ map.entries) :
    map.get? name = some item := by
  rw [get?, find_of_mem map.sorted member, Option.map_some]

theorem names_insert_entry (name : String) (item : Item) {entries : List (String × Item)}
    (sorted : entries.Pairwise fun left right => left.1 < right.1)
    (known : name ∈ entries.map Prod.fst) :
    (insertEntry name item entries).map Prod.fst = entries.map Prod.fst := by
  induction entries with
  | nil => simp at known
  | cons first rest ih =>
      obtain ⟨firstLeast, restSorted⟩ := List.pairwise_cons.mp sorted
      simp only [insertEntry]
      rw [List.map_cons, List.mem_cons] at known
      split
      · next before =>
          rcases known with same | later
          · exact absurd (same ▸ before) (String.lt_irrefl _)
          · obtain ⟨entry, member, named⟩ := List.mem_map.mp later
            have after := firstLeast entry member
            rw [named] at after
            exact absurd (String.lt_trans before after) (String.lt_irrefl _)
      · split
        · next same => simp [same]
        · next different =>
            rw [List.map_cons, List.map_cons]
            rcases known with same | later
            · exact absurd same different
            · rw [ih restSorted later]

theorem contains_iff_mem_names (map : NameMap Item) (name : String) :
    map.contains name = true ↔ name ∈ map.names := by
  simp [contains, get?, names, List.find?_isSome]

theorem names_insert_of_contains {map : NameMap Item} {name : String} (item : Item)
    (known : map.contains name = true) : (map.insert name item).names = map.names :=
  names_insert_entry name item map.sorted ((contains_iff_mem_names map name).mp known)

theorem get_erase (map : NameMap Item) (name other : String) :
    (map.erase name).get? other = if name = other then none else map.get? other := by
  simp only [get?, erase, List.find?_filter]
  split
  · next same =>
      subst same
      simp
  · next different =>
      congr 2
      funext entry
      by_cases found : entry.1 = other
      · have apart : ¬other = name := fun equal => different equal.symm
        simp [found, apart]
      · simp [found]

theorem eq_of_entries {left right : NameMap Item} (same : left.entries = right.entries) :
    left = right := by
  cases left
  cases right
  cases same
  rfl

theorem insert_entry_of_last {name : String} {item : Item} {entries : List (String × Item)}
    (last : ∀ entry ∈ entries, entry.1 < name) :
    insertEntry name item entries = entries ++ [(name, item)] := by
  induction entries with
  | nil => rfl
  | cons first rest ih =>
      have before : first.1 < name := last first List.mem_cons_self
      have notBefore : ¬name < first.1 := fun after =>
        String.lt_irrefl _ (String.lt_trans before after)
      have different : name ≠ first.1 := fun same => String.lt_irrefl _ (same ▸ before)
      have following := ih fun entry member => last entry (List.mem_cons_of_mem _ member)
      simp only [insertEntry, if_neg notBefore, if_neg different, following, List.cons_append]

theorem insert_all_of_sorted (items : List (String × Item)) (map : NameMap Item)
    (sorted : (map.entries ++ items).Pairwise fun left right => left.1 < right.1) :
    (map.insertAll items).entries = map.entries ++ items := by
  induction items generalizing map with
  | nil => exact (List.append_nil _).symm
  | cons item rest ih =>
      have last : ∀ entry ∈ map.entries, entry.1 < item.1 := fun entry member =>
        (List.pairwise_append.mp sorted).2.2 entry member item List.mem_cons_self
      have extended : (map.insert item.1 item.2).entries = map.entries ++ [item] :=
        insert_entry_of_last last
      have regrouped : map.entries ++ item :: rest = map.entries ++ [item] ++ rest := by
        rw [List.append_assoc, List.singleton_append]
      rw [regrouped] at sorted ⊢
      rw [← extended] at sorted ⊢
      exact ih (map.insert item.1 item.2) sorted

theorem insert_all_empty (map : NameMap Item) : empty.insertAll map.entries = map :=
  eq_of_entries (insert_all_of_sorted map.entries empty map.sorted)

theorem insert_all_snoc (map : NameMap Item) (items : List (String × Item)) (item : String × Item) :
    map.insertAll (items ++ [item]) = (map.insertAll items).insert item.1 item.2 := by
  rw [insertAll, insertAll, List.foldl_append]
  rfl

end NameMap

end LineTemplate
