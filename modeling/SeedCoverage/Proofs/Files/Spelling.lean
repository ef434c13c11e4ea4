import SeedCoverage.Proofs.Files.Join

/-! Spellings of one path, in trees that may hold links. Where a path leads hangs on its components alone, and
so do its extension and the components of what is joined to it. -/
namespace SeedCoverage.Files

open Text

/-- Where steps lead from a place if at most `links` links may be followed on the way. -/
inductive Leads (tree : FileTree) : Nat → Location → List Component → Location → Prop where
  | done {links : Nat} {place : Location} : Leads tree links place [] place
  | parent {links : Nat} {place real : Location} {way : List Component} {entries : Entries}
      (here : entryAt? tree.root place = some (.directory entries))
      (rest : Leads tree links place.dropLast way real) : Leads tree links place (.parent :: way) real
  | name {links : Nat} {place real : Location} {way : List Component} {entries : Entries} {text : Text}
      {entry : Entry} (here : entryAt? tree.root place = some (.directory entries))
      (found : entry? entries text = some entry) (solid : ∀ target, entry ≠ .link target)
      (rest : Leads tree links (place ++ [text]) way real) : Leads tree links place (.name text :: way) real
  | link {links : Nat} {place real : Location} {way : List Component} {entries : Entries}
      {text target : Text} (here : entryAt? tree.root place = some (.directory entries))
      (found : entry? entries text = some (.link target))
      (rest : Leads tree links (if isAbsolute target then [] else place) (steps (parts target) ++ way) real) :
      Leads tree (links + 1) place (.name text :: way) real

variable {tree : FileTree} {links : Nat} {place real other : Location} {way : List Component}
  {part name left right : Text} {rest : List Text}

section Following

/-- A path goes on behind its first part from where that leads, which is a place in a directory. -/
theorem follow_cons (goes : tree.follow links place (part :: rest) = .ok real) :
    ∃ entries, entryAt? tree.root place = some (.directory entries) ∧
      (component? false part = none ∧ tree.follow links place rest = .ok real ∨
        component? false part = some .parent ∧ tree.follow links place.dropLast rest = .ok real ∨
        component? false part = some (.name part) ∧ ∃ entry, entry? entries part = some entry ∧
          ((∀ target, entry ≠ .link target) ∧ tree.follow links (place ++ [part]) rest = .ok real ∨
            ∃ target less, entry = .link target ∧ links = less + 1 ∧
              tree.follow less (if isAbsolute target then [] else place) (parts target ++ rest) =
                .ok real)) := by
  rw [FileTree.follow] at goes
  split at goes
  · rename_i entries here
    refine ⟨entries, here, ?_⟩
    rw [component?]
    split at goes
    · rename_i idle
      refine .inl ⟨?_, goes⟩
      rcases Bool.or_eq_true_iff.mp idle with empty | dot
      · rw [if_pos (of_decide_eq_true empty)]
      · rw [if_pos (of_decide_eq_true dot)]
        split <;> rfl
    · rename_i moving
      obtain ⟨filled, notDot⟩ : part ≠ [] ∧ part ≠ ['.'] := by simpa using moving
      rw [if_neg filled, if_neg notDot]
      split at goes
      · rename_i dots
        exact .inr (.inl ⟨if_pos dots, goes⟩)
      · rename_i notDots
        rw [if_neg notDots]
        split at goes
        · cases goes
        · refine .inr (.inr ⟨rfl, ?_⟩)
          split at goes
          · cases goes
          · rename_i target found
            split at goes
            · cases goes
            · rename_i less
              exact ⟨_, found, .inr ⟨target, less, rfl, rfl, goes⟩⟩
          · rename_i entry solid found
            exact ⟨entry, found, .inl ⟨fun target same => solid target same, goes⟩⟩
  · cases goes

theorem leads_of_follow : ∀ (links : Nat) (place : Location) (path : List Text),
    tree.follow links place path = .ok real → Leads tree links place (steps path) real
  | links, place, [], goes => by
    rw [FileTree.follow] at goes
    cases goes
    exact .done
  | links, place, part :: rest, goes => by
    obtain ⟨entries, here, ⟨idle, onward⟩ | ⟨dots, onward⟩ | ⟨named, entry, found, onward⟩⟩ :=
      follow_cons goes
    · rw [steps, List.filterMap_cons_none idle]
      exact leads_of_follow links place rest onward
    · rw [steps, List.filterMap_cons_some dots]
      exact .parent here (leads_of_follow links place.dropLast rest onward)
    · rw [steps, List.filterMap_cons_some named]
      rcases onward with ⟨solid, onward⟩ | ⟨target, less, rfl, rfl, onward⟩
      · exact .name here found solid (leads_of_follow links (place ++ [part]) rest onward)
      · have further := leads_of_follow less _ (parts target ++ rest) onward
        rw [steps, List.filterMap_append] at further
        exact .link here found further
termination_by links _ path => (links, path.length)

theorem Leads.unique (first : Leads tree links place way real) (second : Leads tree links place way other) :
    real = other := by
  induction first with
  | done => cases second; rfl
  | parent here rest ih => cases second with
    | parent _ further => exact ih further
  | name here found solid rest ih => cases second with
    | name _ _ _ further => exact ih further
    | link here' found' further =>
      obtain rfl := Entry.directory.inj (Option.some.inj (here.symm.trans here'))
      exact absurd (Option.some.inj (found.symm.trans found')) (solid _)
  | link here found rest ih => cases second with
    | name here' found' solid further =>
      obtain rfl := Entry.directory.inj (Option.some.inj (here.symm.trans here'))
      exact absurd (Option.some.inj (found'.symm.trans found)) (solid _)
    | link here' found' further =>
      obtain rfl := Entry.directory.inj (Option.some.inj (here.symm.trans here'))
      obtain rfl := Entry.link.inj (Option.some.inj (found.symm.trans found'))
      exact ih further

/-- There is no link at a place: it was followed, or is yet to be. -/
def FileTree.Solid (tree : FileTree) (place : Location) : Prop :=
  ∀ target, entryAt? tree.root place ≠ some (.link target)

theorem FileTree.Solid.of_directory {entries : Entries}
    (here : entryAt? tree.root place = some (.directory entries)) : tree.Solid place := by
  intro target there
  cases here.symm.trans there

theorem FileTree.Solid.dropLast {entries : Entries}
    (here : entryAt? tree.root place = some (.directory entries)) : tree.Solid place.dropLast := by
  rcases List.eq_nil_or_concat place with rfl | ⟨front, last, rfl⟩
  · exact .of_directory here
  · rw [List.concat_eq_append] at here ⊢
    obtain ⟨above, there⟩ := exists_directory here
    rw [List.dropLast_concat]
    exact .of_directory there

theorem entryAt?_concat {entries : Entries} {entry : Entry}
    (here : entryAt? tree.root place = some (.directory entries)) (found : entry? entries name = some entry) :
    entryAt? tree.root (place ++ [name]) = some entry := by
  rw [entryAt?_append here, entryAt?, found]
  cases entry <;> rfl

theorem Leads.solid (leads : Leads tree links place way real) (solid : tree.Solid place) :
    tree.Solid real := by
  induction leads with
  | done => exact solid
  | parent here _ ih => exact ih (.dropLast here)
  | name here found last _ ih =>
    refine ih fun target there => ?_
    exact last target (Option.some.inj ((entryAt?_concat here found).symm.trans there))
  | link here _ _ ih =>
    refine ih ?_
    split
    · have top : entryAt? tree.root [] = some (.directory tree.root) := rfl
      exact .of_directory top
    · exact .of_directory here

/-- A path with any part to it leads to no link. -/
theorem solid_of_follow {path : List Text} (filled : path ≠ [])
    (goes : tree.follow links place path = .ok real) : tree.Solid real := by
  obtain ⟨part, rest, rfl⟩ := List.exists_cons_of_ne_nil filled
  obtain ⟨entries, here, -⟩ := follow_cons goes
  exact (leads_of_follow links place _ goes).solid (.of_directory here)

end Following

section Components

/-- A step, and no beginning of a path. -/
def Component.moves : Component → Bool
  | .root => false
  | .current => false
  | .parent => true
  | .name _ => true

theorem component?_ne_root (first : Bool) (part : Text) : component? first part ≠ some .root := by
  unfold component?
  split_ifs <;> simp

/-- A dot counts at the start of a path, and is no step. -/
theorem filter_moves_component? (first : Bool) (part : Text) :
    (component? first part).toList.filter Component.moves = (component? false part).toList := by
  unfold component?
  split_ifs <;> simp_all [Component.moves]

theorem steps_cons (part : Text) (rest : List Text) :
    steps (part :: rest) = (component? false part).toList ++ steps rest := by
  rw [steps, List.filterMap_cons]
  cases component? false part <;> rfl

theorem filter_moves_steps (path : List Text) : (steps path).filter Component.moves = steps path := by
  induction path with
  | nil => rfl
  | cons part rest ih => rw [steps_cons, List.filter_append, filter_moves_component?, ih]

/-- A path that does not begin at the root begins with a part that may be a dot. -/
theorem components_relative {path : Text} (relative : isAbsolute path = false) :
    ∃ first rest, parts path = first :: rest ∧
      components path = (component? true first).toList ++ steps rest := by
  cases split : parts path with
  | nil => exact absurd split (splitOn_ne_nil '/' path)
  | cons first rest =>
    refine ⟨first, rest, rfl, ?_⟩
    rw [components, split, relative]
    rfl

theorem exists_slash {path : Text} (absolute : isAbsolute path = true) : ∃ rest, path = '/' :: rest :=
  List.head?_eq_some_iff.mp (beq_iff_eq.mp absolute)

theorem isAbsolute_iff {path : Text} : isAbsolute path = true ↔ .root ∈ components path := by
  cases absolute : isAbsolute path with
  | true =>
    obtain ⟨rest, rfl⟩ := exists_slash absolute
    simp [components_slash]
  | false =>
    obtain ⟨first, rest, -, whole⟩ := components_relative absolute
    refine iff_of_false nofun fun member => ?_
    rw [whole, List.mem_append, Option.mem_toList] at member
    rcases member with start | later
    · exact component?_ne_root true first start
    · obtain ⟨part, -, stands⟩ := List.mem_filterMap.mp later
      exact component?_ne_root false part stands

/-- The steps of a path are its components but for what it begins with. -/
theorem steps_parts (path : Text) : steps (parts path) = (components path).filter Component.moves := by
  cases absolute : isAbsolute path with
  | true =>
    obtain ⟨rest, rfl⟩ := exists_slash absolute
    rw [components_slash, parts_slash, List.filter_cons_of_neg (by simp [Component.moves]),
      filter_moves_steps]
    rfl
  | false =>
    obtain ⟨first, rest, split, whole⟩ := components_relative absolute
    rw [split, whole, List.filter_append, filter_moves_component?, filter_moves_steps, steps_cons]

theorem parts_eq_nil_cons {path : Text} (bare : parts path = [] :: rest) :
    path = [] ∨ isAbsolute path = true := by
  cases path with
  | nil => exact .inl rfl
  | cons c path =>
    rw [parts, splitOn] at bare
    split at bare
    · rename_i slash
      exact .inr (by simp [isAbsolute, slash])
    · split at bare <;> cases bare

theorem components_eq_nil {path : Text} : components path = [] ↔ path = [] := by
  refine ⟨fun none_left => ?_, fun empty => empty ▸ rfl⟩
  cases absolute : isAbsolute path with
  | true =>
    obtain ⟨rest, rfl⟩ := exists_slash absolute
    cases none_left
  | false =>
    obtain ⟨first, rest, split, whole⟩ := components_relative absolute
    rw [whole, List.append_eq_nil_iff, Option.toList_eq_nil_iff] at none_left
    have bare : first = [] := by
      by_contra filled
      have start := none_left.1
      rw [component?, if_neg filled, if_pos rfl] at start
      split_ifs at start
    rw [bare] at split
    exact (parts_eq_nil_cons split).resolve_right (by simp [absolute])

theorem components_join_congr (same : components left = components right) (name : Text) :
    components (join left name) = components (join right name) := by
  cases absolute : isAbsolute name with
  | true => rw [join, join, if_pos absolute, if_pos absolute]
  | false =>
    by_cases empty : left = []
    · have also : right = [] := components_eq_nil.mp (same ▸ components_eq_nil.mpr empty)
      rw [empty, also]
    · have filled : right ≠ [] := fun bare =>
        empty (components_eq_nil.mp (same ▸ components_eq_nil.mpr bare))
      rw [components_join_relative empty absolute, components_join_relative filled absolute, same]

theorem extension?_congr (same : components left = components right) :
    extension? left = extension? right := by
  rw [extension?, extension?, same]

end Components

/-- Spellings of one path lead to one place, if they lead anywhere. -/
theorem FileTree.Names.congr (same : components left = components right) (first : tree.Names left place)
    (second : tree.Names right real) : place = real := by
  have start : isAbsolute left = isAbsolute right := by
    rw [Bool.eq_iff_iff, isAbsolute_iff, isAbsolute_iff, same]
  have way : steps (parts left) = steps (parts right) := by rw [steps_parts, steps_parts, same]
  have leads := leads_of_follow _ _ _ first
  rw [start, way] at leads
  exact leads.unique (leads_of_follow _ _ _ second)

/-- Spellings of one path reach one entry, if they reach any. -/
theorem reach_congr {entry held : Entry} (same : components left = components right)
    (first : tree.reach left = .ok (place, entry)) (second : tree.reach right = .ok (real, held)) :
    place = real ∧ entry = held := by
  obtain ⟨-, named, here⟩ := reach_eq_ok.mp first
  obtain ⟨-, named', there⟩ := reach_eq_ok.mp second
  obtain rfl := named.congr same named'
  exact ⟨rfl, Option.some.inj (here.symm.trans there)⟩

end SeedCoverage.Files
