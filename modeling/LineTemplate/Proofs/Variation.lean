import LineTemplate.Proofs.Expression.Substitution
import LineTemplate.Proofs.Markers.Replacement
import LineTemplate.Proofs.Text.Mention
import Mathlib.Data.List.Forall2

/-!
Variables that differ in the value of one name. Expressions that do not mention the name have the
same value with both. A line in which markers are replaced falls into the same gaps and markers with
both, and only where the marker of that name is found it may read otherwise.
-/

namespace LineTemplate

namespace NameMap

variable {Item : Type} {name : String} {first second item : Item} {left right : NameMap Item}

/-- Entries of one name. The items are the same, or the first and the second at the given name. -/
structure EntryVaries (name : String) (first second : Item) (left right : String × Item) : Prop where
  named : left.1 = right.1
  item : left.2 = right.2 ∨ left.1 = name ∧ left.2 = first ∧ right.2 = second

/-- Maps with the same names, which differ in the item at the given name at most. -/
def Varies (name : String) (first second : Item) (left right : NameMap Item) : Prop :=
  List.Forall₂ (EntryVaries name first second) left.entries right.entries

theorem varies_refl (name : String) (first second : Item) (map : NameMap Item) :
    Varies name first second map map :=
  List.forall₂_same.mpr fun _ _ => ⟨rfl, Or.inl rfl⟩

theorem names_of_varies (varies : Varies name first second left right) :
    left.names = right.names := by
  have related : List.Forall₂ (· = ·) left.names right.names :=
    List.forall₂_map_left_iff.mpr
      (List.forall₂_map_right_iff.mpr (varies.imp fun _ _ entry => entry.named))
  exact List.forall₂_eq_eq_eq ▸ related

theorem contains_of_varies (varies : Varies name first second left right) (other : String) :
    left.contains other = right.contains other := by
  rw [Bool.eq_iff_iff, contains_iff_mem_names, contains_iff_mem_names, names_of_varies varies]

theorem is_empty_of_varies (varies : Varies name first second left right) :
    left.isEmpty = right.isEmpty := by
  cases same : left.entries <;> cases other : right.entries <;>
    simp_all [Varies, isEmpty]

theorem varies_insert_entry {other : String} {twin : Item}
    (varies : Varies name first second left right)
    (entry : EntryVaries name first second (other, item) (other, twin)) :
    Varies name first second (left.insert other item) (right.insert other twin) := by
  change List.Forall₂ _ (insertEntry other item left.entries) (insertEntry other twin right.entries)
  unfold Varies at varies
  generalize left.entries = front, right.entries = back at varies
  induction varies with
  | nil => exact .cons entry .nil
  | @cons earlier earlierTwin rest others earlierVaries restVaries ih =>
      rw [insertEntry, insertEntry, earlierVaries.named]
      split
      · exact .cons entry (.cons earlierVaries restVaries)
      · split
        · exact .cons entry restVaries
        · exact .cons earlierVaries ih

theorem varies_insert (varies : Varies name first second left right) (other : String)
    (item : Item) : Varies name first second (left.insert other item) (right.insert other item) :=
  varies_insert_entry varies ⟨rfl, Or.inl rfl⟩

/-- What is found by its name is the same if it cannot be found under the given one. -/
theorem find_of_varies (varies : Varies name first second left right) {test : String → Bool}
    (apart : test name = false) :
    (left.entries.find? fun entry => test entry.1).map Prod.snd =
      (right.entries.find? fun entry => test entry.1).map Prod.snd := by
  unfold Varies at varies
  generalize left.entries = front, right.entries = back at varies
  induction varies with
  | nil => rfl
  | @cons entry twin rest others entryVaries _ ih =>
      rw [List.find?_cons, List.find?_cons, ← entryVaries.named]
      cases found : test entry.1 with
      | false => exact ih
      | true =>
          rcases entryVaries.item with same | ⟨named, _⟩
          · exact congrArg some same
          · rw [named, apart] at found
            cases found

/-- A name has the same item in both maps, or is the given one and has the first and the second. -/
theorem get_of_varies (varies : Varies name first second left right) (other : String) :
    left.get? other = right.get? other ∨
      other = name ∧ left.get? other = some first ∧ right.get? other = some second := by
  unfold Varies at varies
  unfold get?
  generalize left.entries = front, right.entries = back at varies
  induction varies with
  | nil => exact Or.inl rfl
  | @cons entry twin rest others entryVaries _ ih =>
      rw [List.find?_cons, List.find?_cons, ← entryVaries.named]
      cases found : entry.1 == other with
      | false => exact ih
      | true =>
          rcases entryVaries.item with same | ⟨named, here, there⟩
          · exact Or.inl (congrArg some same)
          · exact Or.inr ⟨(beq_iff_eq.mp found).symm.trans named, congrArg some here,
              congrArg some there⟩

/-- Maps with the same names vary at one name if look-ups of all others agree. -/
theorem varies_of_get (names : left.names = right.names)
    (others : ∀ other, other ≠ name → left.get? other = right.get? other)
    (firstAt : ∀ item, left.get? name = some item → item = first)
    (secondAt : ∀ item, right.get? name = some item → item = second) :
    Varies name first second left right := by
  have inLeft : ∀ entry ∈ left.entries, left.get? entry.1 = some entry.2 :=
    fun _ member => get_of_mem member
  have inRight : ∀ entry ∈ right.entries, right.get? entry.1 = some entry.2 :=
    fun _ member => get_of_mem member
  unfold Varies
  unfold NameMap.names at names
  generalize left.entries = front, right.entries = back at names inLeft inRight ⊢
  induction front generalizing back with
  | nil =>
      rw [List.map_nil, eq_comm, List.map_eq_nil_iff] at names
      rw [names]
      exact .nil
  | cons entry rest ih =>
      cases back with
      | nil => cases names
      | cons twin back =>
          rw [List.map_cons, List.map_cons, List.cons.injEq] at names
          obtain ⟨here, inRest⟩ := List.forall_mem_cons.mp inLeft
          obtain ⟨there, inBack⟩ := List.forall_mem_cons.mp inRight
          refine .cons ⟨names.1, ?_⟩ (ih back names.2 inRest inBack)
          by_cases named : entry.1 = name
          · rw [named] at here
            rw [← names.1, named] at there
            exact Or.inr ⟨named, firstAt _ here, secondAt _ there⟩
          · have same := others entry.1 named
            rw [here, names.1, there] at same
            exact Or.inl (Option.some.inj same)

end NameMap

namespace Variables

open Text (Mentions)

variable {name word : String} {first second : Value} {left right : Variables}

/-- A word that does not mention the name is looked up alike. -/
theorem lookup_of_varies (varies : NameMap.Varies name first second left right)
    (unmentioned : ¬ Mentions name word.toList) : left.lookup? word = right.lookup? word := by
  have apart : Text.equalIgnoringCase name word = false := by
    rw [Bool.eq_false_iff]
    exact fun same => unmentioned (Text.mentions_of_equal same)
  have different : (name == word) = false := by
    rw [beq_eq_false_iff_ne]
    rintro rfl
    rw [Text.equal_ignoring_case_refl] at apart
    cases apart
  have exactly : left.get? word = right.get? word :=
    @NameMap.find_of_varies _ _ _ _ _ _ varies (· == word) different
  have alike := @NameMap.find_of_varies _ _ _ _ _ _ varies (Text.equalIgnoringCase · word) apart
  rw [lookup?, lookup?, exactly, alike]

end Variables

namespace Expression

open Text (Mentions)

variable {pattern : NamePattern} {name : String} {value other : Value} {left right : Variables}

theorem replacement_of_varies (varies : NameMap.Varies name value other left right)
    {found : List Char} (unmentioned : ¬ Mentions name found) :
    replacementOf left found = replacementOf right found := by
  have same : left.lookup? (String.ofList found) = right.lookup? (String.ofList found) :=
    Variables.lookup_of_varies varies (by rwa [String.toList_ofList])
  rw [replacementOf, replacementOf, same]

theorem substitute_of_varies (varies : NameMap.Varies name value other left right) {text : String}
    (unmentioned : ¬ Mentions name text.toList) :
    substitute pattern left text = substitute pattern right text := by
  have replaced := @replace_from_congr pattern none false (replacementOf left) (replacementOf right)
    0 text.toList fun found inside =>
      replacement_of_varies varies fun mentioned =>
        unmentioned (Text.mentions_of_inside inside mentioned)
  rw [substitute, substitute, replaced]

theorem presence_of_varies (varies : NameMap.Varies name value other left right) {text : String}
    (unmentioned : ¬ Mentions name text.toList) : presence? left text = presence? right text := by
  have same : ∀ word ∈ Line.words text, left.lookup? word = right.lookup? word :=
    fun word member => Variables.lookup_of_varies varies fun mentioned =>
      unmentioned (Text.mentions_of_inside (Line.words_inside member) mentioned)
  have any : (Line.words text).any (fun word => (left.lookup? word).any Value.isTrue) =
      (Line.words text).any fun word => (right.lookup? word).any Value.isTrue := by
    rw [Bool.eq_iff_iff, List.any_eq_true, List.any_eq_true]
    exact exists_congr fun word => and_congr_right fun member => by rw [same word member]
  simp only [presence?, any]

end Expression

namespace Markers

variable {name marker first second : String} {left right : Markers}

/-- Tables in which the marker of one name stands for the first text and for the second. All else is
the same, apart from the matchers that are kept, and those are up to date. A table that is not in use
is empty. -/
structure Varies (name marker first second : String) (left right : Markers) : Prop where
  enabled : left.enabled = right.enabled
  opening : left.opening = right.opening
  closing : left.closing = right.closing
  entries : NameMap.Varies name first second left.entries right.entries
  named : left.Named
  marker : left.enabled = true → left.wrap name = marker
  idle : left.enabled = false → left.entries.entries = []
  leftCoherent : left.Coherent
  rightCoherent : right.Coherent

theorem varies_bind_entry {other : String} {value twin : Value}
    (varies : Varies name marker first second left right)
    (entry : NameMap.EntryVaries name first second (other, value.render) (other, twin.render)) :
    Varies name marker first second (left.bind other value) (right.bind other twin) := by
  have named := named_bind varies.named other value
  have leftCoherent := coherent_bind varies.leftCoherent other value
  have rightCoherent := coherent_bind varies.rightCoherent other twin
  unfold bind at named leftCoherent rightCoherent ⊢
  rw [← varies.enabled] at rightCoherent ⊢
  split
  · next binds =>
      rw [if_pos binds] at named leftCoherent rightCoherent
      refine ⟨rfl, varies.opening, varies.closing,
        NameMap.varies_insert_entry varies.entries entry, named, varies.marker, fun idle => ?_,
        leftCoherent, rightCoherent⟩
      rw [show left.enabled = false from idle] at binds
      cases binds
  · exact varies

theorem varies_bind (varies : Varies name marker first second left right) (other : String)
    (value : Value) :
    Varies name marker first second (left.bind other value) (right.bind other value) :=
  varies_bind_entry varies ⟨rfl, Or.inl rfl⟩

theorem varies_bind_all {value other : Value} {items others : List (String × Value)}
    (varies : Varies name marker value.render other.render left right)
    (entries : List.Forall₂ (NameMap.EntryVaries name value other) items others) :
    Varies name marker value.render other.render (left.bindAll items) (right.bindAll others) := by
  induction entries generalizing left right with
  | nil => exact varies
  | @cons entry twin rest others entryVaries _ ih =>
      obtain ⟨bound, item⟩ := entry
      obtain ⟨_, twin⟩ := twin
      obtain rfl : bound = _ := entryVaries.named
      refine ih (varies_bind_entry varies ⟨rfl, ?_⟩)
      exact entryVaries.item.imp (congrArg Value.render) fun ⟨named, here, there⟩ =>
        ⟨named, congrArg Value.render here, congrArg Value.render there⟩

theorem varies_searched (varies : Varies name marker first second left right) :
    Varies name marker first second left.searched right.searched := by
  have leftCoherent := coherent_searched varies.leftCoherent
  have rightCoherent := coherent_searched varies.rightCoherent
  unfold searched at leftCoherent rightCoherent ⊢
  rw [← varies.enabled, ← NameMap.is_empty_of_varies varies.entries] at rightCoherent ⊢
  split
  · next searches =>
      rw [if_pos searches] at leftCoherent rightCoherent
      exact ⟨rfl, varies.opening, varies.closing, varies.entries, varies.named, varies.marker,
        varies.idle, leftCoherent, rightCoherent⟩
  · exact varies

/-- The characters fall into the same gaps and markers with both tables, and the name of each marker
has the same text in both, or is the given one and has the first and the second. -/
structure CutAlike (name first second : String) (left right : Markers) (characters : List Char)
    (factors : List (List Char × String)) (last : List Char) : Prop where
  leftCut : left.Factors characters factors last
  rightCut : right.Factors characters factors last
  texts : ∀ factor ∈ factors, left.entries.get? factor.2 = right.entries.get? factor.2 ∨
    factor.2 = name ∧ left.entries.get? factor.2 = some first ∧
      right.entries.get? factor.2 = some second

theorem in_use_of_varies (varies : Varies name marker first second left right)
    (enabled : left.enabled = true) : left.InUse ∧ right.InUse := by
  refine ⟨⟨enabled, varies.leftCoherent, varies.named⟩, varies.enabled ▸ enabled,
    varies.rightCoherent, ?_⟩
  rw [Named, ← NameMap.names_of_varies varies.entries]
  exact varies.named

theorem cut_alike_of_varies (varies : Varies name marker first second left right)
    {characters : List Char} {factors : List (List Char × String)} {last : List Char}
    (cut : left.Factors characters factors last) :
    CutAlike name first second left right characters factors last := by
  have wrapped : right.wrap = left.wrap := by
    funext other
    rw [wrap, wrap, varies.opening, varies.closing]
  exact ⟨cut, factors_of_same_names (NameMap.names_of_varies varies.entries).symm wrapped cut,
    fun factor _ => NameMap.get_of_varies varies.entries factor.2⟩

/-- A line is cut up in the same way, and both tables fill what it is cut into. -/
theorem apply_of_varies (varies : Varies name marker first second left right) (line : String) :
    ∃ factors last, CutAlike name first second left right line.toList factors last ∧
      (left.apply line).toList = left.fill factors last ∧
      (right.apply line).toList = right.fill factors last := by
  cases enabled : left.enabled with
  | false =>
      have idle (markers : Markers) (disabled : markers.enabled = false) :
          (markers.apply line).toList = markers.fill [] line.toList := by
        rw [apply, disabled]
        rfl
      exact ⟨[], line.toList,
        cut_alike_of_varies varies (factors_of_no_entries (varies.idle enabled) line.toList),
        idle left enabled, idle right (varies.enabled ▸ enabled)⟩
  | true =>
      obtain ⟨leftInUse, rightInUse⟩ := in_use_of_varies varies enabled
      obtain ⟨factors, last, cut, filled⟩ := replace_fills_factors leftInUse.named line.toList
      obtain ⟨others, further, twin, filledTwin⟩ := replace_fills_factors rightInUse.named line.toList
      have alike := cut_alike_of_varies varies cut
      obtain ⟨rfl, rfl⟩ := factors_unique rightInUse.named alike.rightCut twin
      exact ⟨_, _, alike, (apply_of_in_use leftInUse line).trans filled,
        (apply_of_in_use rightInUse line).trans filledTwin⟩

/-- Without a difference in the text of the name the same is filled in. -/
theorem fill_of_cut_alike {text : String} {characters : List Char}
    {factors : List (List Char × String)} {last : List Char}
    (alike : CutAlike name text text left right characters factors last) :
    left.fill factors last = right.fill factors last := by
  have texts : ∀ factor ∈ factors,
      left.entries.get? factor.2 = right.entries.get? factor.2 := by
    intro factor member
    rcases alike.texts factor member with same | ⟨-, here, there⟩
    · exact same
    · rw [here, there]
  rw [fill, fill]
  congr 1
  exact List.flatMap_congr fun factor member => by simp only [texts factor member]

/-- Each kind of substitution starts with tables that vary if the variables do. Only one kind takes
its texts from the variables. -/
theorem varies_of_substitution (substitution : Substitution) {value other : Value}
    {bindings varied : Variables} (varies : NameMap.Varies name value other bindings varied)
    (opening closing : String) :
    Varies name (opening ++ name ++ closing) value.render other.render
      (ofSubstitution substitution bindings opening closing)
      (ofSubstitution substitution varied opening closing) := by
  have fresh : Varies name (opening ++ name ++ closing) value.render other.render
      { enabled := true, opening, closing, entries := NameMap.empty }
      { enabled := true, opening, closing, entries := NameMap.empty } :=
    ⟨rfl, rfl, rfl, .nil, fun _ member => absurd member List.not_mem_nil, fun _ => rfl,
      fun _ => rfl, coherent_of_unsearched rfl, coherent_of_unsearched rfl⟩
  cases substitution with
  | off =>
      exact ⟨rfl, rfl, rfl, .nil, fun _ member => absurd member List.not_mem_nil,
        fun enabled => absurd enabled Bool.false_ne_true, fun _ => rfl, coherent_of_unsearched rfl,
        coherent_of_unsearched rfl⟩
  | fromVariables => exact varies_bind_all fresh varies
  | table items => exact varies_bind_all fresh (NameMap.varies_refl name value other items)

end Markers

end LineTemplate
