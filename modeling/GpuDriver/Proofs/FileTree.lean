import GpuDriver.Proofs.Table
import GpuDriver.Proofs.Text.Numeral
import GpuDriver.Proofs.Text.Octets
import GpuDriver.Proofs.Text.Pieces
import GpuDriver.Temporary
import Mathlib.Data.List.Induction

/-!
# Walking and writing

Where a path leads is settled by the second names and the working directory of a tree; what there is on the
way only says whether the walk gets there (`walk_unique`). So a directory that was not there before stays
where it was made, whatever becomes of the rest (`Temporary.locate_child`), and what is written there is
seen nowhere else. What was written at a path is read there again (`read_write`).
-/

namespace GpuDriver

/-! ### Components -/

namespace Path

/-- The octets name something in a directory: they are not empty, hold no slash, and are not made of
dots. -/
structure IsComponent (c : Bytes) : Prop where
  ne_nil : c ≠ []
  no_slash : slash ∉ c
  ne_dot : c ≠ [dot]
  ne_dots : c ≠ [dot, dot]

variable {base p c : Path}

theorem forall_ne_slash (h : slash ∉ p) : ∀ x ∈ p, (x == slash) = false :=
  fun _ hx => beq_eq_false_iff_ne.2 fun heq => h (heq ▸ hx)

theorem IsComponent.components (h : IsComponent c) : components c = [c] :=
  Text.pieces_eq_singleton (forall_ne_slash h.no_slash)

theorem IsComponent.relative (h : IsComponent c) : isAbsolute c = false := by
  refine beq_eq_false_iff_ne.2 fun hhead => h.no_slash ?_
  exact List.mem_of_head? hhead

theorem join_relative (hp : isAbsolute p = false) :
    join base p = if base.isEmpty || base.getLast? == some slash then base ++ p
      else base ++ slash :: p := by
  rw [join, hp]
  rfl

/-- The name of a file has no slash. -/
theorem slash_not_mem_fileName (h : fileName? p = some c) : slash ∉ c := by
  have hc : c ∈ components p := by
    rw [fileName?] at h
    obtain ⟨hhead, -⟩ := Option.filter_eq_some_iff.1 h
    exact List.mem_reverse.1 ((List.dropWhile_sublist _).subset (List.mem_of_head? hhead))
  exact fun hm => absurd (Text.eq_false_of_mem_pieces hc hm) (by decide)

/-- A path that is joined to another starts where that starts. -/
theorem isAbsolute_join (hb : base ≠ []) (hp : isAbsolute p = false) :
    isAbsolute (join base p) = isAbsolute base := by
  obtain ⟨x, rest, rfl⟩ := List.exists_cons_of_ne_nil hb
  rw [join_relative hp]
  split <;> rfl

theorem join_ne_nil (hb : base ≠ []) (hp : isAbsolute p = false) : join base p ≠ [] := by
  rw [join_relative hp]
  split <;> simp [hb]

/-- The components of a path that is joined to another are those of the two; a slash at the end of the
first does not count. -/
theorem components_join (hb : base ≠ []) (hp : isAbsolute p = false) :
    ∃ front, components (join base p) = front ++ components p ∧
      (components base = front ∨ components base = front ++ [[]]) := by
  have hempty : base.isEmpty = false := List.isEmpty_eq_false_iff.2 hb
  rw [join_relative hp, hempty, Bool.false_or]
  split
  · rename_i hlast
    obtain ⟨front, rfl⟩ := List.getLast?_eq_some_iff.1 (beq_iff_eq.1 hlast)
    refine ⟨components front, ?_, Or.inr (Text.pieces_append_cons (by rfl) front [])⟩
    rw [List.append_assoc]
    exact Text.pieces_append_cons (by rfl) front p
  · exact ⟨components base, Text.pieces_append_cons (by rfl) base p, Or.inl rfl⟩

end Path

namespace FileTree

variable {t t' : FileTree} {place place' q : Place} {node? node?' : Option FileNode} {p : Path}
  {cs ds : List Bytes} {c : Bytes}

/-! ### What is at a place -/

theorem at?_put (t : FileTree) (place : Place) (node : FileNode) (q : Place) :
    (t.put place node).at? q = if q = place ∧ q ≠ [] then some node else t.at? q := by
  cases q with
  | nil => rw [if_neg fun h => h.2 rfl]; rfl
  | cons x q =>
    have hput : (t.put place node).at? (x :: q) = (t.nodes.insert place node).get? (x :: q) := rfl
    rw [hput, Table.get?_insert]
    by_cases h : x :: q = place
    · rw [if_pos h, if_pos ⟨h, List.cons_ne_nil x q⟩]
    · rw [if_neg h, if_neg fun h' => h h'.1]
      rfl

theorem at?_put_of_ne {node : FileNode} (h : q ≠ place) : (t.put place node).at? q = t.at? q := by
  rw [at?_put, if_neg fun h' => h h'.1]

theorem at?_put_self {node : FileNode} (h : place ≠ []) :
    (t.put place node).at? place = some node := by
  rw [at?_put, if_pos ⟨rfl, h⟩]

theorem at?_removeAll_outside (h : ¬ place <+: q) : (t.removeAll place).at? q = t.at? q := by
  cases q with
  | nil => rfl
  | cons x q =>
    have hremove : (t.removeAll place).at? (x :: q) =
        (t.nodes.filter fun other _ => !place.isPrefixOf other).get? (x :: q) := rfl
    have hkept : (!place.isPrefixOf (x :: q)) = true := by
      rw [Bool.not_eq_true', ← Bool.not_eq_true, List.isPrefixOf_iff_prefix]
      exact h
    rw [hremove, Table.get?_filter]
    show (t.nodes.get? (x :: q)).filter _ = t.nodes.get? (x :: q)
    cases t.nodes.get? (x :: q) with
    | none => rfl
    | some node => rw [Option.filter_some, if_pos hkept]

theorem at?_removeAll_inside (h : place <+: q) (hq : q ≠ []) : (t.removeAll place).at? q = none := by
  obtain ⟨x, q, rfl⟩ := List.exists_cons_of_ne_nil hq
  have hremove : (t.removeAll place).at? (x :: q) =
      (t.nodes.filter fun other _ => !place.isPrefixOf other).get? (x :: q) := rfl
  rw [hremove, Table.get?_filter, List.isPrefixOf_iff_prefix.2 h]
  cases t.nodes.get? (x :: q) <;> rfl

/-- The trees have the same working directory and the same second names, and at the places in `P` they
have the same. -/
structure SameAt (P : Place → Prop) (t t' : FileTree) : Prop where
  links : t'.links = t.links
  directory : t'.directory = t.directory
  at? : ∀ q, P q → t'.at? q = t.at? q

section SameAt

variable {P Q : Place → Prop} {t'' : FileTree}

theorem SameAt.refl (P : Place → Prop) (t : FileTree) : SameAt P t t := ⟨rfl, rfl, fun _ _ => rfl⟩

theorem SameAt.trans (h : SameAt P t t') (h' : SameAt P t' t'') : SameAt P t t'' where
  links := h'.links.trans h.links
  directory := h'.directory.trans h.directory
  at? q hq := (h'.at? q hq).trans (h.at? q hq)

theorem sameAt_put (t : FileTree) {node : FileNode} (h : ∀ q, P q → q ≠ place) :
    SameAt P t (t.put place node) :=
  ⟨rfl, rfl, fun q hq => at?_put_of_ne (h q hq)⟩

theorem sameAt_removeAll (t : FileTree) (h : ∀ q, P q → ¬ place <+: q) :
    SameAt P t (t.removeAll place) :=
  ⟨rfl, rfl, fun q hq => at?_removeAll_outside (h q hq)⟩

end SameAt

/-! ### Walking -/

theorem walk_append (t : FileTree) (place : Place) (cs ds : List Bytes) :
    t.walk place (cs ++ ds) = (t.walk place cs).bind fun found => t.walk found.1 ds := by
  induction cs generalizing place with
  | nil => rfl
  | cons c cs ih =>
    rw [List.cons_append, walk, walk]
    cases t.at? place with
    | none => rfl
    | some node =>
      cases node with
      | directory =>
        dsimp only
        split
        · exact ih _
        · split
          · exact ih _
          · split
            · rfl
            · exact ih _
      | file | sink => rfl

/-- A walk tells what is where it ends. -/
theorem snd_walk (h : t.walk place cs = .ok (q, node?)) : node? = t.at? q := by
  induction cs generalizing place with
  | nil =>
    obtain ⟨rfl, rfl⟩ := Prod.mk.inj (Except.ok.inj h)
    rfl
  | cons c cs ih =>
    rw [walk] at h
    split at h
    · cases h
    · split at h
      · exact ih h
      · split at h
        · exact ih h
        · split at h
          · cases h
          · exact ih h
    · cases h

/-- In the directories of the tree `t` there are the same second names in the tree `t'`. -/
def NamedAlike (t t' : FileTree) : Prop :=
  ∀ above c, t.at? above = some .directory →
    t'.links.get? (above ++ [c]) = t.links.get? (above ++ [c])

theorem namedAlike_of_links (links : t'.links = t.links) : NamedAlike t t' := fun _ _ _ => by
  rw [links]

/-- **Where a walk ends** is settled by the second names in the directories on the way. -/
theorem walk_unique (names : NamedAlike t t') (h : t.walk place cs = .ok (q, node?))
    (h' : t'.walk place cs = .ok (place', node?')) : place' = q := by
  induction cs generalizing place with
  | nil =>
    obtain ⟨rfl, -⟩ := Prod.mk.inj (Except.ok.inj h)
    obtain ⟨rfl, -⟩ := Prod.mk.inj (Except.ok.inj h')
    rfl
  | cons c cs ih =>
    have resolved : t.at? place = some .directory →
        t'.resolved (place ++ [c]) = t.resolved (place ++ [c]) := fun hplace => by
      rw [FileTree.resolved, FileTree.resolved, names place c hplace]
    rw [walk] at h h'
    split at h <;> try cases h
    split at h' <;> try cases h'
    split at h
    · rw [if_pos ‹_›] at h'
      exact ih h h'
    · rw [if_neg ‹_›] at h'
      split at h
      · rw [if_pos ‹_›] at h'
        exact ih h h'
      · rw [if_neg ‹_›] at h'
        split at h
        · cases h
        · rw [if_neg ‹_›, resolved ‹_›] at h'
          exact ih h h'

/-- A walk goes on only from a directory. -/
theorem directory_of_walk (h : t.walk place (c :: cs) = .ok (q, node?)) :
    t.at? place = some .directory := by
  rw [walk] at h
  split at h
  · cases h
  · assumption
  · cases h

/-- One step of a walk. -/
theorem walk_component (hc : Path.IsComponent c) (h : t.walk place (c :: cs) = .ok (q, node?)) :
    t.walk (t.resolved (place ++ [c])) cs = .ok (q, node?) := by
  have hempty : (c.isEmpty || c == [Path.dot]) = false := by
    rw [Bool.or_eq_false_iff, List.isEmpty_eq_false_iff, beq_eq_false_iff_ne]
    exact ⟨hc.ne_nil, hc.ne_dot⟩
  have hdots : (c == [Path.dot, Path.dot]) = false := beq_eq_false_iff_ne.2 hc.ne_dots
  rw [walk, directory_of_walk h] at h
  dsimp only at h
  rw [hempty, hdots, if_neg Bool.false_ne_true, if_neg Bool.false_ne_true] at h
  split at h
  · cases h
  · exact h

theorem locate_eq_ok_iff {found : Place × Option FileNode} :
    t.locate p = .ok found ↔
      pathFault? p = none ∧ t.walk (t.start p) (Path.components p) = .ok found := by
  rw [locate]
  cases pathFault? p with
  | none => simp
  | some e => simp

theorem start_congr (directory : t'.directory = t.directory) (p : Path) : t'.start p = t.start p := by
  rw [start, start, directory]

/-- A walk along joined paths is one along the first and then one along the second. -/
theorem exists_walk_of_join {base : Path} (hb : base ≠ []) (hp : Path.isAbsolute p = false)
    (h : t.walk q (Path.components (Path.join base p)) = .ok (place', node?')) :
    ∃ place node?, t.walk q (Path.components base) = .ok (place, node?) ∧
      t.walk place (Path.components p) = .ok (place', node?') := by
  obtain ⟨front, hjoin, hbase⟩ := Path.components_join hb hp
  rw [hjoin, walk_append] at h
  cases hfront : t.walk q front with
  | error e =>
    rw [hfront] at h
    cases h
  | ok found =>
    obtain ⟨place, node?⟩ := found
    rw [hfront] at h
    obtain hbase | hbase := hbase
    · exact ⟨place, node?, hbase ▸ hfront, h⟩
    · obtain ⟨c, rest, hcomponents⟩ := List.exists_cons_of_ne_nil (Text.pieces_ne_nil (· == Path.slash) p)
      have hwalk : t.walk place (c :: rest) = .ok (place', node?') := by
        rw [← hcomponents]
        exact h
      have hdirectory : t.at? place = some .directory := directory_of_walk hwalk
      refine ⟨place, t.at? place, ?_, h⟩
      rw [hbase, walk_append, hfront]
      show t.walk place [[]] = _
      rw [walk, hdirectory]
      dsimp only
      rw [if_pos (by rfl), walk, hdirectory]

/-! ### Writing and removing -/

theorem placeForFile_eq_ok {found : Place × Option FileNode} (h : t.placeForFile p = .ok found) :
    t.locate p = .ok found ∧ found.2 ≠ some .directory := by
  rw [placeForFile] at h
  split at h
  · cases walked : t.walk (t.start p) (aboveLast p) <;> cases hp : pathFault? p <;>
      simp [hp, walked, Except.bind] at h
  · split at h
    · cases h
    · cases h
    · rename_i located other
      obtain rfl := Except.ok.inj h
      exact ⟨other, fun hdirectory => located _ (Prod.ext rfl hdirectory)⟩

/-- What is written at a path comes to the place that the path leads to, or nowhere, into a sink. -/
theorem write_cases {contents : Bytes} (h : t.write p contents = .ok t') :
    t' = t ∨ ∃ place node?, t.locate p = .ok (place, node?) ∧ t' = t.put place (.file contents) := by
  rw [write] at h
  split at h
  · cases h
  · split at h
    · exact Or.inl (Except.ok.inj h).symm
    · cases h
  · exact Or.inl (Except.ok.inj h).symm
  · rename_i place node? _ _ found
    exact Or.inr ⟨place, node?, (placeForFile_eq_ok found).1, (Except.ok.inj h).symm⟩

/-- What is written to a sink is kept nowhere. -/
theorem eq_of_write_sink {contents : Bytes} {k : Sink} (h : t.write p contents = .ok t')
    (keeps : t.sink? p = some k) : t' = t := by
  have located : ∃ place, t.locate p = .ok (place, some (.sink k)) := by
    rw [sink?] at keeps
    split at keeps
    · obtain rfl := Option.some.inj keeps
      exact ⟨_, ‹_›⟩
    · cases keeps
  obtain ⟨place, located⟩ := located
  rw [write] at h
  split at h
  · cases h
  · split at h
    · exact (Except.ok.inj h).symm
    · cases h
  · exact (Except.ok.inj h).symm
  · rename_i place' node? _ other found
    obtain ⟨-, rfl⟩ := Prod.mk.inj (Except.ok.inj (located.symm.trans (placeForFile_eq_ok found).1))
    exact absurd rfl (other k)

/-- A walk to something that is no directory gets there as well when something else is put there. -/
theorem walk_put {node : FileNode} (h : t.walk place cs = .ok (q, node?))
    (hq : t.at? q ≠ some .directory) : (t.put q node).walk place cs = .ok (q, some node) := by
  induction cs generalizing place with
  | nil =>
    obtain ⟨rfl, -⟩ := Prod.mk.inj (Except.ok.inj h)
    have hne : place ≠ [] := by
      rintro rfl
      exact hq rfl
    rw [walk, at?_put_self hne]
  | cons c cs ih =>
    have hplace := directory_of_walk h
    have hput : (t.put q node).at? place = some .directory := by
      rw [at?_put_of_ne, hplace]
      rintro rfl
      exact hq hplace
    rw [walk, hplace] at h
    rw [walk, hput]
    dsimp only at h ⊢
    split at h
    · rw [if_pos ‹_›]
      exact ih h
    · rw [if_neg ‹_›]
      split at h
      · rw [if_pos ‹_›]
        exact ih h
      · rw [if_neg ‹_›]
        split at h
        · cases h
        · rw [if_neg ‹_›]
          exact ih h

/-- **What was written at a path is read there**, unless it was a sink. -/
theorem read_write {contents : Bytes} (h : t.write p contents = .ok t') (keeps : t.sink? p = none) :
    t'.read p = .ok contents := by
  have no_sink : ∀ {place s}, t.placeForFile p ≠ .ok (place, some (.sink s)) := fun found => by
    rw [sink?, (placeForFile_eq_ok found).1] at keeps
    cases keeps
  rw [write] at h
  split at h
  · cases h
  · exact absurd ‹_› no_sink
  · exact absurd ‹_› no_sink
  · rename_i place node? _ _ found
    obtain ⟨located, other⟩ := placeForFile_eq_ok found
    obtain ⟨fault, walked⟩ := locate_eq_ok_iff.1 located
    obtain rfl := Except.ok.inj h
    have there : (t.put place (.file contents)).locate p = .ok (place, some (.file contents)) :=
      locate_eq_ok_iff.2 ⟨fault, walk_put walked (snd_walk walked ▸ other)⟩
    rw [read, there]

/-- Nothing is written at a path that leads nowhere. -/
theorem write_of_locate_eq_error {e : IoError} (h : t.locate p = .error e) (contents : Bytes) :
    ∃ e, t.write p contents = .error e := by
  have place : ∃ e, t.placeForFile p = .error e := by
    rw [placeForFile, h]
    split
    · split
      · exact ⟨_, rfl⟩
      · cases t.walk (t.start p) (aboveLast p) <;> exact ⟨_, rfl⟩
    · exact ⟨e, rfl⟩
  obtain ⟨e, refused⟩ := place
  exact ⟨e, by rw [write, refused]⟩

theorem removeDirectory_cases (t : FileTree) (p : Path) :
    t.removeDirectory p = t ∨
      ∃ place node, t.locate p = .ok (place, some node) ∧ t.removeDirectory p = t.removeAll place := by
  rw [removeDirectory]
  split
  · rename_i place node found
    exact Or.inr ⟨place, node, found, rfl⟩
  · exact Or.inl rfl

/-! ### Directories made for a time -/

/-- What there is, and what has a second name, stands in a directory. -/
structure Sound (t : FileTree) : Prop where
  nodes {above : Place} {c : Bytes} (h : (t.nodes.get? (above ++ [c])).isSome) :
    t.at? above = some .directory
  links {above : Place} {c : Bytes} (h : (t.links.get? (above ++ [c])).isSome) :
    t.at? above = some .directory

theorem sound_empty : ({} : FileTree).Sound where
  nodes h := by cases h
  links h := by cases h

/-- Something new in a directory leaves a sound tree. -/
theorem Sound.put {above : Place} (sound : t.Sound) (h : t.at? above = some .directory)
    (new : t.at? (above ++ [c]) = none) (node : FileNode) : (t.put (above ++ [c]) node).Sound := by
  have kept : ∀ above', t.at? above' = some .directory →
      (t.put (above ++ [c]) node).at? above' = some .directory := by
    intro above' h'
    rw [at?_put_of_ne, h']
    rintro rfl
    rw [new] at h'
    cases h'
  refine ⟨fun {above' c'} there => ?_, fun there => kept _ (sound.links there)⟩
  have hput : (t.put (above ++ [c]) node).nodes.get? (above' ++ [c']) =
      (t.nodes.insert (above ++ [c]) node).get? (above' ++ [c']) := rfl
  rw [hput, Table.get?_insert] at there
  split at there
  · rename_i same
    obtain ⟨rfl, -⟩ := List.append_inj' same rfl
    exact kept _ h
  · exact kept _ (sound.nodes there)

/-- The path `root` was made to lead to a directory at `place`, where there was nothing in the tree
`t`. -/
structure Temporary (t : FileTree) (root : Path) (place : Place) : Prop where
  made : ∃ parent above name, t.locate parent = .ok (above, some .directory) ∧ parent ≠ [] ∧
    Path.IsComponent name ∧ root = Path.join parent name ∧ place = above ++ [name]
  nothing : t.at? place = none
  no_link : t.links.get? place = none

/-- A way to make directories for a time. What is made is new, in the directory that was asked for, and
nothing else changes. -/
def MakesFresh (make : Path → FileTree → Except IoError (Path × FileTree)) : Prop :=
  ∀ parent root t t', make parent t = .ok (root, t') →
    ∃ place, t.Temporary root place ∧ t' = t.put place .directory ∧
      ∃ above name, t.locate parent = .ok (above, some .directory) ∧ place = above ++ [name]

/-- Above everything that there is, there is something. -/
theorem Sound.isSome_of_prefix (sound : t.Sound) (h : (t.at? q).isSome) (below : place <+: q) :
    (t.at? place).isSome := by
  obtain ⟨rest, rfl⟩ := below
  induction rest using List.reverseRecOn with
  | nil => rwa [List.append_nil] at h
  | append_singleton rest c ih =>
    have hnodes : (t.nodes.get? (place ++ rest ++ [c])).isSome := by
      rw [← List.append_assoc] at h
      cases hq : place ++ rest ++ [c] with
      | nil => simp at hq
      | cons x q => rw [hq] at h; exact h
    exact ih (by rw [sound.nodes hnodes]; rfl)

namespace Temporary

variable {root : Path}

theorem ne_nil (h : t.Temporary root place) : place ≠ [] := by
  obtain ⟨_, _, name, _, _, _, _, rfl⟩ := h.made
  exact List.append_ne_nil_of_right_ne_nil _ (List.cons_ne_nil _ _)

/-- Nothing that there was is in the directory. -/
theorem not_prefix (h : t.Temporary root place) (sound : t.Sound) (there : (t.at? q).isSome) :
    ¬ place <+: q := by
  intro below
  have above := sound.isSome_of_prefix there below
  rw [h.nothing] at above
  cases above

/-- There was nothing in the directory, and no second name. -/
theorem empty (h : t.Temporary root place) (sound : t.Sound) (c : Bytes) :
    t.at? (place ++ [c]) = none ∧ t.links.get? (place ++ [c]) = none := by
  constructor
  · rw [← Option.not_isSome_iff_eq_none]
    exact fun there => h.not_prefix sound there (List.prefix_append _ _)
  · rw [← Option.not_isSome_iff_eq_none]
    intro there
    have above := sound.links there
    rw [h.nothing] at above
    cases above

section Later

variable (h : t.Temporary root place) (names : NamedAlike t t')
  (directory : t'.directory = t.directory)

include h

theorem root_ne_nil : root ≠ [] := by
  obtain ⟨parent, _, name, _, hparent, hname, rfl, _⟩ := h.made
  exact Path.join_ne_nil hparent hname.relative

include names directory

theorem walk_root (walked : t'.walk (t'.start root) (Path.components root) = .ok (q, node?)) :
    q = place := by
  obtain ⟨parent, above, name, located, hparent, hname, rfl, rfl⟩ := h.made
  obtain ⟨-, found⟩ := locate_eq_ok_iff.1 located
  obtain ⟨above', _, first, second⟩ := exists_walk_of_join hparent hname.relative walked
  have hstart : t'.start (Path.join parent name) = t.start parent := by
    rw [start_congr directory, start, start, Path.isAbsolute_join hparent hname.relative]
  rw [hstart] at first
  obtain rfl := walk_unique names found first
  rw [hname.components] at second
  have last := walk_component hname second
  obtain ⟨rfl, -⟩ := Prod.mk.inj (Except.ok.inj last)
  rw [resolved, names _ name (snd_walk found).symm, h.no_link]
  rfl

/-- The path of the directory leads there, if anywhere. -/
theorem locate_root (located : t'.locate root = .ok (q, node?)) : q = place :=
  h.walk_root names directory (locate_eq_ok_iff.1 located).2

/-- A path into the directory goes on from there. -/
theorem walk_inside {p : Path} (hp : Path.isAbsolute p = false)
    (located : t'.locate (Path.join root p) = .ok (q, node?)) :
    t'.walk place (Path.components p) = .ok (q, node?) := by
  obtain ⟨-, walked⟩ := locate_eq_ok_iff.1 located
  have hstart : t'.start (Path.join root p) = t'.start root := by
    rw [start, start, Path.isAbsolute_join h.root_ne_nil hp]
  rw [hstart] at walked
  obtain ⟨place', _, first, second⟩ := exists_walk_of_join h.root_ne_nil hp walked
  rwa [h.walk_root names directory first] at second

omit names in
/-- **A name in the directory** leads to its place there, if anywhere. -/
theorem locate_child (links : t'.links = t.links) (sound : t.Sound) (hc : Path.IsComponent c)
    (located : t'.locate (Path.join root c) = .ok (q, node?)) : q = place ++ [c] := by
  have walked := h.walk_inside (namedAlike_of_links links) directory hc.relative located
  rw [hc.components] at walked
  obtain ⟨rfl, -⟩ := Prod.mk.inj (Except.ok.inj (walk_component hc walked))
  rw [resolved, links, (h.empty sound c).2]
  rfl

end Later

/-- A longer path into the directory leads nowhere as long as the directory is empty. -/
theorem locate_deeper (h : t.Temporary root place) (sound : t.Sound) {p : Path} {c' : Bytes}
    (hp : Path.isAbsolute p = false) (hc : Path.IsComponent c)
    (hcomponents : Path.components p = c :: c' :: cs) :
    ∃ e, (t.put place .directory).locate (Path.join root p) = .error e := by
  cases located : (t.put place .directory).locate (Path.join root p) with
  | error e => exact ⟨e, rfl⟩
  | ok found =>
    have links : (t.put place .directory).links = t.links := rfl
    have walked := h.walk_inside (namedAlike_of_links links) rfl hp located
    rw [hcomponents] at walked
    have further := directory_of_walk (walk_component hc walked)
    have hlink : (t.put place .directory).resolved (place ++ [c]) = place ++ [c] := by
      show (t.links.get? (place ++ [c])).getD (place ++ [c]) = place ++ [c]
      rw [(h.empty sound c).2]
      rfl
    rw [hlink, at?_put_of_ne (by simp), (h.empty sound c).1] at further
    cases further

end Temporary

/-! ### Numbered directories -/

/-- A number makes a name that names something in a directory. -/
theorem isComponent_temporaryName (n : Nat) : Path.IsComponent (temporaryName n) := by
  have hname : temporaryName n = Utf8.encode ".tmp" ++ Utf8.encode (Text.paddedDecimal 6 n) :=
    Utf8.encode_append _ _
  have hslash : Path.slash ∉ Utf8.encode (Text.paddedDecimal 6 n) := by
    intro hm
    have hm : '/' ∈ (Text.paddedDecimal 6 n).toList :=
      (Utf8.octet_mem_encode_iff (x := '/') (by decide)).1 hm
    exact absurd (Text.isDigit_of_mem_paddedDecimal hm) (by decide)
  have hfour : Utf8.encode ".tmp" = [0x2E, 0x74, 0x6D, 0x70] := by decide
  rw [hname, hfour]
  refine ⟨by simp, ?_, by simp, by simp⟩
  rw [List.mem_append]
  exact fun hm => hm.elim (by decide) hslash

theorem isTaken_freeNumber {n tries k : Nat} (h : t.freeNumber place n tries = some k) :
    t.isTaken (place ++ [temporaryName k]) = false := by
  induction tries generalizing n with
  | zero => cases h
  | succ tries ih =>
    rw [freeNumber] at h
    split at h
    · exact ih h
    · rename_i free
      obtain rfl := Option.some.inj h
      exact Bool.not_eq_true _ ▸ free

/-- **The directory with the least free number is new.** -/
theorem makesFresh_makeNumbered : MakesFresh makeNumbered := by
  intro parent root t t' h
  rw [makeNumbered] at h
  split at h
  · cases h
  · cases h
  · rename_i above located
    split at h
    · cases h
    · rename_i n free
      obtain ⟨rfl, rfl⟩ := Prod.mk.inj (Except.ok.inj h)
      have untaken := isTaken_freeNumber free
      rw [isTaken, Bool.or_eq_false_iff, Option.isSome_eq_false_iff, Option.isNone_iff_eq_none,
        Table.contains, Option.isSome_eq_false_iff, Option.isNone_iff_eq_none] at untaken
      have hparent : parent ≠ [] := by
        rintro rfl
        cases (locate_eq_ok_iff.1 located).1
      exact ⟨_, ⟨⟨parent, above, temporaryName n, located, hparent, isComponent_temporaryName n, rfl,
        rfl⟩, untaken.1, untaken.2⟩, rfl, above, temporaryName n, located, rfl⟩
  · cases h

end FileTree

end GpuDriver
