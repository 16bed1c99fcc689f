import Mathlib.Data.List.Forall2
import PhpHooks.Files.Discovery

set_option autoImplicit false

/-!
The walk below a folder. It finds every PHP file that folders which are not excluded lead to, each
once, the files of a folder in front of those of its subfolders. Several paths are walked one after
the other, up to one that is too long to be asked about.
-/
namespace PhpHooks

namespace Text

/-- Order by code points: what has the smaller one at the first difference comes first, and a proper
beginning comes before what it begins. -/
abbrev Before (s t : Text) : Prop :=
  List.Lex (fun a b : Char => a.toNat < b.toNat) s t

theorem Before.irrefl {s : Text} : ¬ Before s s := by
  induction s with
  | nil =>
      intro before
      cases before
  | cons a s ih =>
      intro before
      cases before with
      | rel smaller => exact absurd smaller (Nat.lt_irrefl _)
      | cons rest => exact ih rest

theorem before_of_le {s t : Text} (ordered : le s t = true) (differ : s ≠ t) : Before s t := by
  induction s generalizing t with
  | nil =>
      cases t with
      | nil => exact absurd rfl differ
      | cons b t => exact .nil
  | cons a s ih =>
      cases t with
      | nil => cases ordered
      | cons b t =>
          simp only [le, Bool.or_eq_true, decide_eq_true_eq, Bool.and_eq_true,
            beq_iff_eq] at ordered
          rcases ordered with smaller | ⟨rfl, rest⟩
          · exact .rel smaller
          · exact .cons (ih rest (fun same => differ (by rw [same])))

theorem le_trans {s t u : Text} (first : le s t = true) (second : le t u = true) :
    le s u = true := by
  induction s generalizing t u with
  | nil => rfl
  | cons a s ih =>
      cases t with
      | nil => cases first
      | cons b t =>
          cases u with
          | nil => cases second
          | cons c u =>
              simp only [le, Bool.or_eq_true, decide_eq_true_eq, Bool.and_eq_true,
                beq_iff_eq] at first second ⊢
              rcases first with smaller | ⟨rfl, rest⟩
              · rcases second with also | ⟨rfl, _⟩
                · exact .inl (Nat.lt_trans smaller also)
                · exact .inl smaller
              · rcases second with also | ⟨rfl, more⟩
                · exact .inl also
                · exact .inr ⟨rfl, ih rest more⟩

theorem le_total (s t : Text) : (le s t || le t s) = true := by
  induction s generalizing t with
  | nil => rfl
  | cons a s ih =>
      cases t with
      | nil => rfl
      | cons b t =>
          have rest := ih t
          simp only [le, Bool.or_eq_true, decide_eq_true_eq, Bool.and_eq_true,
            beq_iff_eq] at rest ⊢
          by_cases same : a = b
          · subst same
            rcases rest with front | back
            · exact .inl (.inr ⟨rfl, front⟩)
            · exact .inr (.inr ⟨rfl, back⟩)
          · have differ : a.toNat ≠ b.toNat := fun equal => same (Char.toNat_inj.mp equal)
            rcases Nat.lt_or_gt_of_ne differ with smaller | larger
            · exact .inl (.inl smaller)
            · exact .inr (.inl larger)

end Text

namespace FileNode

/-- Induction over a tree, with the hypothesis for every entry of a folder. -/
theorem induct {motive : FileNode → Prop} (file : ∀ content, motive (.file content))
    (folder : ∀ entries : List (Text × FileNode), (∀ entry ∈ entries, motive entry.2) →
      motive (.folder entries))
    (link : ∀ target, motive (.link target)) (node : FileNode) : motive node := by
  refine @FileNode.rec motive (fun entries => ∀ entry ∈ entries, motive entry.2)
    (fun entry => motive entry.2) file folder link ?_ ?_ ?_ node
  · simp
  · exact fun entry entries first others => List.forall_mem_cons.mpr ⟨first, others⟩
  · exact fun name node inner => inner

/-- Every folder of the tree lists each of its names once. -/
def ListsOnce (node : FileNode) : Prop :=
  ∀ place entries, node.at? place = some (.folder entries) → (entries.map Prod.fst).Nodup

theorem at?_append (node : FileNode) (place names : List Text) :
    node.at? (place ++ names) = (node.at? place).bind (·.at? names) := by
  induction place generalizing node with
  | nil => rfl
  | cons name place ih =>
      cases node with
      | file content => rfl
      | link target => rfl
      | folder entries =>
          simp only [List.cons_append, at?]
          cases entries.lookup name with
          | none => rfl
          | some below => exact ih below

theorem ListsOnce.below {node below : FileNode} {place : List Text} (once : node.ListsOnce)
    (here : node.at? place = some below) : below.ListsOnce := by
  intro names entries inside
  apply once (place ++ names) entries
  rw [at?_append, here]
  exact inside

theorem lookup_of_mem {entries : List (Text × FileNode)} (once : (entries.map Prod.fst).Nodup)
    {name : Text} {node : FileNode} (listed : (name, node) ∈ entries) :
    entries.lookup name = some node := by
  induction entries with
  | nil => cases listed
  | cons entry entries ih =>
      rw [List.map_cons, List.nodup_cons] at once
      rw [List.lookup_cons]
      rcases List.mem_cons.mp listed with rfl | later
      · rw [beq_self_eq_true]
      · have other : ¬ (name == entry.1) = true := by
          intro same
          apply once.1
          rw [← eq_of_beq same]
          exact List.mem_map_of_mem later
        simp only [other]
        exact ih once.2 later

theorem mem_of_lookup {entries : List (Text × FileNode)} {name : Text} {node : FileNode}
    (found : entries.lookup name = some node) : (name, node) ∈ entries := by
  obtain ⟨front, back, split, -⟩ := List.lookup_eq_some_iff.mp found
  rw [split]
  simp

theorem ListsOnce.file (content : FileContent) : (FileNode.file content).ListsOnce := by
  intro place entries inside
  cases place with
  | nil => cases inside
  | cons name place => cases inside

theorem ListsOnce.link (target : Text) : (FileNode.link target).ListsOnce := by
  intro place entries inside
  cases place with
  | nil => cases inside
  | cons name place => cases inside

theorem ListsOnce.folder {entries : List (Text × FileNode)}
    (names : (entries.map Prod.fst).Nodup) (others : ∀ entry ∈ entries, entry.2.ListsOnce) :
    (FileNode.folder entries).ListsOnce := by
  intro place inner inside
  cases place with
  | nil =>
      cases inside
      exact names
  | cons name place =>
      rw [at?, Option.bind_eq_some_iff] at inside
      obtain ⟨node, found, below⟩ := inside
      exact others (name, node) (mem_of_lookup found) place inner below

theorem ListsOnce.entry {entries : List (Text × FileNode)} {name : Text} {node : FileNode}
    (once : (FileNode.folder entries).ListsOnce) (listed : (name, node) ∈ entries) :
    node.ListsOnce := by
  have found := lookup_of_mem (once [] entries rfl) listed
  have here : (FileNode.folder entries).at? [name] = some node := by simp [at?, found]
  exact once.below here

end FileNode

namespace Path

/-- What `names` lead to from the folder `p`. -/
def below (p : Path) (names : List Text) : Path :=
  { p with parts := p.parts ++ names }

theorem child_below (p : Path) (name : Text) (names : List Text) :
    (p.child name).below names = p.below (name :: names) := by
  rw [below, below, child, List.append_assoc, List.singleton_append]

theorem below_inj {p : Path} {names others : List Text} (same : p.below names = p.below others) :
    names = others :=
  List.append_cancel_left (congrArg Path.parts same)

/-- The order of a walk, by the names from the folder where it starts: the files of a folder by
name, in front of what its subfolders hold, and the subfolders by name. -/
inductive Precedes : List Text → List Text → Prop
  | files {a b : Text} (before : Text.Before a b) : Precedes [a] [b]
  | fileFirst {a b name : Text} {names : List Text} : Precedes [a] (b :: name :: names)
  | folders {a b name other : Text} {names others : List Text} (before : Text.Before a b) :
      Precedes (a :: name :: names) (b :: other :: others)
  | inside {name : Text} {names others : List Text} (precedes : Precedes names others) :
      Precedes (name :: names) (name :: others)

theorem Precedes.irrefl {names : List Text} : ¬ Precedes names names := by
  induction names with
  | nil =>
      intro precedes
      cases precedes
  | cons name names ih =>
      intro precedes
      cases precedes with
      | files before => exact before.irrefl
      | folders before => exact before.irrefl
      | inside precedes => exact ih precedes

/-- Both paths lie below `p`, the first in front of the second. -/
def WalkOrder (p q r : Path) : Prop :=
  ∃ names others, q = p.below names ∧ r = p.below others ∧ Precedes names others

theorem WalkOrder.ne {p q r : Path} (order : WalkOrder p q r) : q ≠ r := by
  obtain ⟨names, others, rfl, rfl, precedes⟩ := order
  intro same
  rw [below_inj same] at precedes
  exact precedes.irrefl

theorem WalkOrder.child {p q r : Path} {name : Text} (order : WalkOrder (p.child name) q r) :
    WalkOrder p q r := by
  obtain ⟨names, others, rfl, rfl, precedes⟩ := order
  exact ⟨name :: names, name :: others, child_below p name names, child_below p name others,
    precedes.inside⟩

end Path

namespace FileSystem

theorem mem_byName {α : Type} {entries : List (Text × α)} {entry : Text × α} :
    entry ∈ byName entries ↔ entry ∈ entries :=
  List.mem_mergeSort

/-- Entries with different names are put in strict order. -/
theorem pairwise_byName {α : Type} {entries : List (Text × α)}
    (once : (entries.map Prod.fst).Nodup) :
    (byName entries).Pairwise (fun a b => Text.Before a.1 b.1) := by
  have sorted : (byName entries).Pairwise (fun a b => Text.le a.1 b.1 = true) := by
    apply List.pairwise_mergeSort
    · exact fun a b c => Text.le_trans
    · exact fun a b => Text.le_total a.1 b.1
  have distinct : (byName entries).Pairwise (fun a b => a.1 ≠ b.1) := by
    have names : ((byName entries).map Prod.fst).Nodup :=
      ((List.mergeSort_perm entries _).map Prod.fst).nodup_iff.mpr once
    rwa [List.nodup_iff_pairwise_ne, List.pairwise_map] at names
  exact (sorted.and distinct).imp fun both => Text.before_of_le both.1 both.2

variable (fs : FileSystem)

theorem folderFiles_eq (shown : Path) (place : Place) (entries : List (Text × FileNode)) :
    fs.folderFiles shown place entries =
      (entries.filter fun entry => !isExcluded entry.1).map fun entry =>
        (entry.1, fs.phpFilesBelow (shown.child entry.1) (place ++ [entry.1]) entry.2) := by
  induction entries with
  | nil => rfl
  | cons entry entries ih =>
      obtain ⟨name, node⟩ := entry
      rw [folderFiles, ih]
      by_cases excluded : isExcluded name = true
      · rw [if_pos excluded, List.filter_cons_of_neg (by simp [excluded])]
      · rw [if_neg excluded, List.filter_cons_of_pos (by simp [excluded]), List.map_cons]

theorem mem_ownFiles {shown q : Path} {place : Place} {entries : List (Text × FileNode)} :
    q ∈ fs.ownFiles shown place entries ↔ ∃ name node, (name, node) ∈ entries ∧
      isPhpName name = true ∧ fs.leadsToFolder place node = false ∧ q = shown.child name := by
  simp only [ownFiles, List.mem_map, mem_byName, List.mem_filter, Bool.and_eq_true,
    Bool.not_eq_true', Prod.exists]
  constructor
  · rintro ⟨name, node, ⟨listed, php, file⟩, rfl⟩
    exact ⟨name, node, listed, php, file, rfl⟩
  · rintro ⟨name, node, listed, php, file, rfl⟩
    exact ⟨name, node, ⟨listed, php, file⟩, rfl⟩

theorem mem_folderFiles {shown q : Path} {place : Place} {entries : List (Text × FileNode)} :
    q ∈ (byName (fs.folderFiles shown place entries)).flatMap Prod.snd ↔
      ∃ name node, (name, node) ∈ entries ∧ isExcluded name = false ∧
        q ∈ fs.phpFilesBelow (shown.child name) (place ++ [name]) node := by
  simp only [List.mem_flatMap, mem_byName, folderFiles_eq, List.mem_map, List.mem_filter,
    Bool.not_eq_true', Prod.exists]
  constructor
  · rintro ⟨_, files, ⟨name, node, ⟨listed, kept⟩, same⟩, inside⟩
    rw [Prod.mk.injEq] at same
    rw [← same.2] at inside
    exact ⟨name, node, listed, kept, inside⟩
  · rintro ⟨name, node, listed, kept, inside⟩
    exact ⟨_, _, ⟨name, node, ⟨listed, kept⟩, rfl⟩, inside⟩

/-- Names that lead down from a tree at `place` to a PHP file: through folders that are not
excluded, to an entry that neither is nor leads to a folder. -/
def LeadsToPhp (place : Place) (node : FileNode) (names : List Text) : Prop :=
  ∃ folders name entry, names = folders ++ [name] ∧ node.at? names = some entry ∧
    fs.leadsToFolder (place ++ folders) entry = false ∧ isPhpName name = true ∧
    ∀ folder ∈ folders, isExcluded folder = false

variable {fs} in
theorem leadsToPhp_cons {place : Place} {entries : List (Text × FileNode)}
    (once : (entries.map Prod.fst).Nodup) {names : List Text} :
    fs.LeadsToPhp place (.folder entries) names ↔
      (∃ name node, (name, node) ∈ entries ∧ isPhpName name = true ∧
        fs.leadsToFolder place node = false ∧ names = [name]) ∨
      ∃ name node rest, (name, node) ∈ entries ∧ isExcluded name = false ∧
        fs.LeadsToPhp (place ++ [name]) node rest ∧ names = name :: rest := by
  constructor
  · rintro ⟨folders, name, entry, rfl, here, file, php, kept⟩
    cases folders with
    | nil =>
        simp only [List.nil_append, FileNode.at?, Option.bind_eq_some_iff] at here
        obtain ⟨node, found, same⟩ := here
        rw [List.append_nil] at file
        rw [← Option.some.inj same] at file
        exact .inl ⟨name, node, FileNode.mem_of_lookup found, php, file, rfl⟩
    | cons folder folders =>
        simp only [List.cons_append, FileNode.at?, Option.bind_eq_some_iff] at here
        obtain ⟨node, found, inside⟩ := here
        rw [List.forall_mem_cons] at kept
        refine .inr ⟨folder, node, folders ++ [name], FileNode.mem_of_lookup found, kept.1, ?_, rfl⟩
        refine ⟨folders, name, entry, rfl, inside, ?_, php, kept.2⟩
        rwa [List.append_assoc, List.singleton_append]
  · rintro (⟨name, node, listed, php, file, rfl⟩ | ⟨name, node, rest, listed, kept, leads, rfl⟩)
    · refine ⟨[], name, node, rfl, ?_, ?_, php, by simp⟩
      · simp [FileNode.at?, FileNode.lookup_of_mem once listed]
      · rwa [List.append_nil]
    · obtain ⟨folders, last, entry, rfl, here, file, php, others⟩ := leads
      refine ⟨name :: folders, last, entry, rfl, ?_, ?_, php, ?_⟩
      · simp [FileNode.at?, FileNode.lookup_of_mem once listed, here]
      · rwa [List.append_assoc, List.singleton_append] at file
      · exact List.forall_mem_cons.mpr ⟨kept, others⟩

/-- Nothing lies below what is no folder. -/
theorem not_leadsToPhp {place : Place} {node : FileNode} (bare : ∀ entries, node ≠ .folder entries)
    (names : List Text) : ¬ fs.LeadsToPhp place node names := by
  rintro ⟨folders, name, entry, rfl, here, -⟩
  have filled : folders ++ [name] ≠ [] := by simp
  obtain ⟨first, rest, split⟩ := List.exists_cons_of_ne_nil filled
  rw [split] at here
  cases node with
  | file content => cases here
  | link target => cases here
  | folder entries => exact bare entries rfl

/-- The walk finds the PHP files below a folder and nothing else. -/
theorem mem_phpFilesBelow {node : FileNode} (once : node.ListsOnce) (shown : Path) (place : Place)
    (q : Path) :
    q ∈ fs.phpFilesBelow shown place node ↔
      ∃ names, q = shown.below names ∧ fs.LeadsToPhp place node names := by
  induction node using FileNode.induct generalizing shown place with
  | file content => simp [phpFilesBelow, fs.not_leadsToPhp]
  | link target => simp [phpFilesBelow, fs.not_leadsToPhp]
  | folder entries ih =>
      have distinct := once [] entries rfl
      rw [phpFilesBelow, List.mem_append, mem_ownFiles, mem_folderFiles]
      simp only [leadsToPhp_cons distinct]
      constructor
      · rintro (⟨name, node, listed, php, file, rfl⟩ | ⟨name, node, listed, kept, inside⟩)
        · exact ⟨[name], rfl, .inl ⟨name, node, listed, php, file, rfl⟩⟩
        · obtain ⟨rest, rfl, leads⟩ := (ih _ listed (once.entry listed) _ _).mp inside
          exact ⟨name :: rest, Path.child_below shown name rest,
            .inr ⟨name, node, rest, listed, kept, leads, rfl⟩⟩
      · rintro ⟨names, rfl, ⟨name, node, listed, php, file, rfl⟩ |
          ⟨name, node, rest, listed, kept, leads, rfl⟩⟩
        · exact .inl ⟨name, node, listed, php, file, rfl⟩
        · refine .inr ⟨name, node, listed, kept, ?_⟩
          rw [ih _ listed (once.entry listed)]
          exact ⟨rest, (Path.child_below shown name rest).symm, leads⟩

theorem pairwise_ownFiles {entries : List (Text × FileNode)}
    (once : (entries.map Prod.fst).Nodup) (shown : Path) (place : Place) :
    (fs.ownFiles shown place entries).Pairwise shown.WalkOrder := by
  have fewer : ((entries.filter fun entry =>
      isPhpName entry.1 && !fs.leadsToFolder place entry.2).map Prod.fst).Nodup :=
    once.sublist (List.filter_sublist.map _)
  rw [ownFiles, List.pairwise_map]
  apply (pairwise_byName fewer).imp
  intro a b before
  exact ⟨[a.1], [b.1], rfl, rfl, .files before⟩

/-- What a subfolder holds has a name behind that of the subfolder. -/
theorem exists_below_cons {node : FileNode} (once : node.ListsOnce) {shown q : Path} {place : Place}
    {name : Text} (inside : q ∈ fs.phpFilesBelow (shown.child name) place node) :
    ∃ first rest, q = shown.below (name :: first :: rest) := by
  obtain ⟨names, rfl, folders, last, entry, split, -⟩ := (fs.mem_phpFilesBelow once _ _ q).mp inside
  have filled : names ≠ [] := by
    rw [split]
    simp
  obtain ⟨first, rest, rfl⟩ := List.exists_cons_of_ne_nil filled
  exact ⟨first, rest, Path.child_below shown name (first :: rest)⟩

/-- The walk goes through a folder in order. -/
theorem pairwise_phpFilesBelow {node : FileNode} (once : node.ListsOnce) (shown : Path)
    (place : Place) : (fs.phpFilesBelow shown place node).Pairwise shown.WalkOrder := by
  induction node using FileNode.induct generalizing shown place with
  | file content => exact .nil
  | link target => exact .nil
  | folder entries ih =>
      have distinct := once [] entries rfl
      have subfolder : ∀ folder ∈ fs.folderFiles shown place entries, ∃ node,
          (folder.1, node) ∈ entries ∧
            folder.2 = fs.phpFilesBelow (shown.child folder.1) (place ++ [folder.1]) node := by
        intro folder inside
        rw [folderFiles_eq, List.mem_map] at inside
        obtain ⟨entry, kept, rfl⟩ := inside
        exact ⟨entry.2, List.mem_of_mem_filter kept, rfl⟩
      rw [phpFilesBelow, List.pairwise_append]
      -- own files among themselves, then what subfolders hold, then the former before the latter
      refine ⟨fs.pairwise_ownFiles distinct shown place, ?_, ?_⟩
      · rw [List.pairwise_flatMap]
        refine ⟨?_, ?_⟩
        · intro folder inside
          obtain ⟨node, listed, files⟩ := subfolder folder (mem_byName.mp inside)
          rw [files]
          exact (ih _ listed (once.entry listed) _ _).imp Path.WalkOrder.child
        · have names : ((fs.folderFiles shown place entries).map Prod.fst).Nodup := by
            rw [folderFiles_eq, List.map_map]
            exact distinct.sublist (List.filter_sublist.map _)
          apply (pairwise_byName names).imp_of_mem
          intro a b inA inB before q inQ r inR
          obtain ⟨node, listed, files⟩ := subfolder a (mem_byName.mp inA)
          obtain ⟨other, also, others⟩ := subfolder b (mem_byName.mp inB)
          rw [files] at inQ
          rw [others] at inR
          obtain ⟨first, rest, rfl⟩ := fs.exists_below_cons (once.entry listed) inQ
          obtain ⟨second, more, rfl⟩ := fs.exists_below_cons (once.entry also) inR
          exact ⟨_, _, rfl, rfl, .folders before⟩
      · intro q inQ r inR
        obtain ⟨name, node, -, -, -, rfl⟩ := (fs.mem_ownFiles).mp inQ
        obtain ⟨folder, other, listed, -, inside⟩ := (fs.mem_folderFiles).mp inR
        obtain ⟨first, rest, rfl⟩ := fs.exists_below_cons (once.entry listed) inside
        exact ⟨[name], _, rfl, rfl, .fileFirst⟩

section Lengths

/-- A name is longer than any name in a folder can be. -/
def IsLongName (name : Text) : Prop :=
  maxNameBytes < byteLength name

def HasLink (top : FileNode) (target : Text) : Prop :=
  ∃ place, top.at? place = some (.link target)

/-- What a stretch along names comes to: a link in the tree with names left over, or a fault, and a
name that is too long only if it is one of the names. -/
def Stretch.Along (top : FileNode) (names : List Text) : Stretch → Prop
  | .arrived _ => True
  | .linked _ target rest => HasLink top target ∧ ∀ name ∈ rest, name ∈ names
  | .failed cause => cause = .nameTooLong → ∃ name ∈ names, IsLongName name

variable {top : FileNode}

theorem Stretch.Along.cons {names : List Text} {stretch : Stretch} (along : stretch.Along top names)
    (first : Text) : stretch.Along top (first :: names) := by
  cases stretch with
  | arrived place => trivial
  | linked folder target rest =>
      exact ⟨along.1, fun name inside => List.mem_cons_of_mem first (along.2 name inside)⟩
  | failed cause =>
      intro tooLong
      obtain ⟨name, inside, long⟩ := along tooLong
      exact ⟨name, List.mem_cons_of_mem first inside, long⟩

theorem stretch_along (top : FileNode) (place : Place) (names : List Text) :
    (stretch top place names).Along top names := by
  fun_induction stretch top place names with
  | case1 place => trivial
  | case2 place name rest entries here dot ih => exact ih.cons name
  | case3 place name rest entries here dot dots ih => exact ih.cons name
  | case4 place name rest entries here dot dots long =>
      exact fun _ => ⟨name, List.mem_cons_self, long⟩
  | case5 => exact fun other => by cases other
  | case6 place name rest entries here dot dots short target link =>
      refine ⟨⟨place ++ [name], ?_⟩, fun other inside => List.mem_cons_of_mem name inside⟩
      rw [FileNode.at?_append, here]
      simp [FileNode.at?, link]
  | case7 place name rest entries here dot dots short node other found ih => exact ih.cons name
  | case8 => exact fun other => by cases other
  | case9 => exact fun other => by cases other

theorem follow_of_failed {links : Nat} {place : Place} {names : List Text} {cause : ReadFault}
    (failed : stretch top place names = .failed cause) :
    follow top links place names = .error cause := by
  unfold follow
  simp only [failed]

/-- Names that following names from a folder can come across: those themselves and those in the
targets of links. -/
def IsMet (top : FileNode) (names : List Text) (name : Text) : Prop :=
  name ∈ names ∨ ∃ target, HasLink top target ∧ name ∈ Path.targetNames target

theorem follow_tooLong {links : Nat} {place : Place} {names : List Text}
    (failed : follow top links place names = .error .nameTooLong) :
    ∃ name, IsMet top names name ∧ IsLongName name := by
  fun_induction follow top links place names with
  | case1 => cases failed
  | case2 links place names cause found =>
      have along := stretch_along top place names
      rw [found] at along
      obtain ⟨name, inside, long⟩ := along (Except.error.inj failed)
      exact ⟨name, .inl inside, long⟩
  | case3 => cases failed
  | case4 place names folder target rest links found ih =>
      have along := stretch_along top place names
      rw [found] at along
      obtain ⟨name, met, long⟩ := ih failed
      refine ⟨name, ?_, long⟩
      rcases met with inside | elsewhere
      -- behind a link, the names are those of its target and the ones that were left over
      · rcases List.mem_append.mp inside with inTarget | inRest
        · exact .inr ⟨target, along.1, inTarget⟩
        · exact .inl (along.2 name inRest)
      · exact .inr elsewhere

variable (fs : FileSystem)

/-- A path that nothing can be at, as it has too many bytes or comes across a name that has. -/
def IsTooLong (p : Path) : Prop :=
  maxPathBytes ≤ byteLength p.text ∨ ∃ name, IsMet fs.top p.parts name ∧ IsLongName name

theorem isTooLong_of_find {p : Path} (failed : fs.find p = .error .nameTooLong) :
    fs.IsTooLong p := by
  rw [find] at failed
  split at failed
  · cases failed
  · split at failed
    · next many => exact .inl many
    · split at failed
      · next cause found =>
          cases failed
          exact .inr (follow_tooLong found)
      · split at failed
        · cases failed
        · cases failed

theorem at?_of_find {p : Path} {place : Place} {node : FileNode}
    (found : fs.find p = .ok (place, node)) : fs.top.at? place = some node := by
  rw [find] at found
  split at found
  · cases found
  · split at found
    · cases found
    · split at found
      · cases found
      · split at found
        · next there =>
            cases found
            exact there
        · cases found

end Lengths

inductive StandsFor (p : Path) : List Path → Prop
  | file {place : Place} {content : FileContent} (here : fs.find p = .ok (place, .file content)) :
      StandsFor p [p]
  | folder {place : Place} {entries : List (Text × FileNode)} {files : List Path}
      (here : fs.find p = .ok (place, .folder entries))
      (exactly : ∀ q, q ∈ files ↔
        ∃ names, q = p.below names ∧ fs.LeadsToPhp place (.folder entries) names)
      (once : files.Nodup) (ordered : files.Pairwise p.WalkOrder) : StandsFor p files
  | nothing (noFile : ∀ place content, fs.find p ≠ .ok (place, .file content))
      (noFolder : ∀ place entries, fs.find p ≠ .ok (place, .folder entries)) : StandsFor p []

variable {fs}

theorem StandsFor.mem_iff {p : Path} {files : List Path} (standsFor : fs.StandsFor p files)
    {place : Place} {entries : List (Text × FileNode)}
    (here : fs.find p = .ok (place, .folder entries)) (q : Path) :
    q ∈ files ↔ ∃ names, q = p.below names ∧ fs.LeadsToPhp place (.folder entries) names := by
  cases standsFor with
  | file there => cases here.symm.trans there
  | nothing noFile noFolder => exact absurd here (noFolder place entries)
  | folder there exactly once ordered =>
      cases here.symm.trans there
      exact exactly q

theorem standsFor_phpFilesBelow (once : fs.top.ListsOnce) {p : Path} {place : Place}
    {entries : List (Text × FileNode)} (here : fs.find p = .ok (place, .folder entries)) :
    fs.StandsFor p (fs.phpFilesBelow p place (.folder entries)) := by
  have below : (FileNode.folder entries).ListsOnce := once.below (fs.at?_of_find here)
  have ordered := fs.pairwise_phpFilesBelow below p place
  have distinct : (fs.phpFilesBelow p place (.folder entries)).Nodup :=
    List.nodup_iff_pairwise_ne.mpr (ordered.imp Path.WalkOrder.ne)
  exact .folder here (fs.mem_phpFilesBelow below p place) distinct ordered

theorem exists_phpFilesAt (once : fs.top.ListsOnce) {p : Path}
    (short : fs.find p ≠ .error .nameTooLong) :
    ∃ files, fs.phpFilesAt p = .ok files ∧ fs.StandsFor p files := by
  rw [phpFilesAt]
  cases found : fs.find p with
  | error cause =>
      have nothing : fs.StandsFor p [] := .nothing (by simp [found]) (by simp [found])
      refine ⟨[], ?_, nothing⟩
      cases cause with
      | nameTooLong => exact absurd found short
      | _ => rfl
  | ok there =>
      obtain ⟨place, node⟩ := there
      cases node with
      | file content => exact ⟨[p], rfl, .file found⟩
      | folder entries => exact ⟨_, rfl, standsFor_phpFilesBelow once found⟩
      | link target => exact ⟨[], rfl, .nothing (by simp [found]) (by simp [found])⟩

/-- Only a path that is too long stops the walk. -/
theorem phpFilesAt_eq_error_iff {p : Path} {cause : ReadFault} :
    fs.phpFilesAt p = .error cause ↔ cause = .nameTooLong ∧ fs.find p = .error .nameTooLong := by
  constructor
  · intro failed
    rw [phpFilesAt] at failed
    split at failed
    · cases failed
    · cases failed
    · next found => exact ⟨(Except.error.inj failed).symm, found⟩
    · cases failed
  · intro tooLong
    rw [phpFilesAt, tooLong.2, tooLong.1]

theorem phpFiles_cons (p : Path) (paths : List Path) :
    fs.phpFiles (p :: paths) =
      match fs.phpFilesAt p with
      | .error cause => .error cause
      | .ok files => (fs.phpFiles paths).map (files ++ ·) := by
  rw [phpFiles, phpFiles, List.mapM_cons]
  cases fs.phpFilesAt p with
  | error cause => rfl
  | ok files =>
      cases paths.mapM fs.phpFilesAt with
      | error cause => rfl
      | ok others => rfl

/-- Paths that are short enough are walked one after the other. -/
theorem exists_phpFiles (once : fs.top.ListsOnce) {paths : List Path}
    (short : ∀ p ∈ paths, fs.find p ≠ .error .nameTooLong) :
    ∃ found, List.Forall₂ fs.StandsFor paths found ∧ fs.phpFiles paths = .ok found.flatten := by
  induction paths with
  | nil => exact ⟨[], .nil, rfl⟩
  | cons p paths ih =>
      rw [List.forall_mem_cons] at short
      obtain ⟨files, walked, standsFor⟩ := exists_phpFilesAt once short.1
      obtain ⟨found, others, rest⟩ := ih short.2
      refine ⟨files :: found, .cons standsFor others, ?_⟩
      rw [phpFiles_cons, walked, rest]
      rfl

theorem phpFiles_tooLong {paths : List Path} {p : Path} (inside : p ∈ paths)
    (failed : fs.find p = .error .nameTooLong) : fs.phpFiles paths = .error .nameTooLong := by
  induction paths with
  | nil => cases inside
  | cons q paths ih =>
      rw [phpFiles_cons]
      cases walked : fs.phpFilesAt q with
      | error cause =>
          show Except.error cause = _
          rw [(phpFilesAt_eq_error_iff.mp walked).1]
      | ok files =>
          have later : p ∈ paths := by
            rcases List.mem_cons.mp inside with rfl | later
            · rw [phpFilesAt_eq_error_iff.mpr ⟨rfl, failed⟩] at walked
              cases walked
            · exact later
          show (fs.phpFiles paths).map _ = _
          rw [ih later]
          rfl

/-- Paths stand for files one after the other: a folder for the PHP files below it, each once and in
the order of a walk, a file for itself, and a path with nothing there for no files. A path that is
too long to be asked about cannot be walked, nor can others along with it. -/
theorem phpFiles_walk (fs : FileSystem) (once : fs.top.ListsOnce) (paths : List Path) :
    ((∀ p ∈ paths, fs.find p ≠ .error .nameTooLong) →
      ∃ found, List.Forall₂ fs.StandsFor paths found ∧ fs.phpFiles paths = .ok found.flatten) ∧
    ∀ p ∈ paths, fs.find p = .error .nameTooLong →
      fs.phpFiles paths = .error .nameTooLong ∧ fs.IsTooLong p := by
  refine ⟨exists_phpFiles once, ?_⟩
  intro p inside failed
  exact ⟨phpFiles_tooLong inside failed, fs.isTooLong_of_find failed⟩

section Example

/-- A plugin with sources, libraries of others and a link to the sources. -/
private def plugin : FileSystem where
  top := .folder [
    (['s', 'r', 'c'], .folder [(['A', '.', 'P', 'H', 'P'], .file ⟨[], none⟩)]),
    (['v', 'e', 'n', 'd', 'o', 'r'], .folder [(['a', '.', 'p', 'h', 'p'], .file ⟨[], none⟩)]),
    (['l', 'i', 'b'], .link ['s', 'r', 'c'])]
  current := []
  homes := []

private theorem plugin_listsOnce : plugin.top.ListsOnce := by
  refine .folder (by decide) ?_
  intro entry inside
  simp only [List.mem_cons, List.not_mem_nil, or_false] at inside
  rcases inside with rfl | rfl | rfl
  · exact .folder (by decide) (by simp [FileNode.ListsOnce.file])
  · exact .folder (by decide) (by simp [FileNode.ListsOnce.file])
  · exact .link _

/-- The sources are found, the libraries are not, and neither are the sources behind the link. -/
theorem phpFiles_walk_plugin :
    plugin.top.ListsOnce ∧ ∃ files, plugin.phpFiles [⟨[], []⟩] = .ok files ∧
      ⟨[], [['s', 'r', 'c'], ['A', '.', 'P', 'H', 'P']]⟩ ∈ files ∧
      ⟨[], [['v', 'e', 'n', 'd', 'o', 'r'], ['a', '.', 'p', 'h', 'p']]⟩ ∉ files ∧
      ⟨[], [['l', 'i', 'b'], ['A', '.', 'P', 'H', 'P']]⟩ ∉ files := by
  refine ⟨plugin_listsOnce, ?_⟩
  have here : plugin.find ⟨[], []⟩ = .ok ([], plugin.top) := rfl
  obtain ⟨found, each, walked⟩ :=
    (phpFiles_walk plugin plugin_listsOnce [⟨[], []⟩]).1 (by simp [here])
  obtain ⟨files, others, standsFor, none, rfl⟩ := List.forall₂_cons_left_iff.mp each
  rw [List.forall₂_nil_left_iff.mp none, List.flatten_singleton] at walked
  have below := standsFor.mem_iff here
  refine ⟨files, walked, (below _).mpr ?_, ?_, ?_⟩
  · exact ⟨_, rfl, [['s', 'r', 'c']], _, _, rfl, rfl, rfl, by decide, by decide⟩
  · intro inside
    obtain ⟨_, same, folders, name, entry, rfl, -, -, -, kept⟩ := (below _).mp inside
    have parts : [['v', 'e', 'n', 'd', 'o', 'r']] ++ [['a', '.', 'p', 'h', 'p']] =
        folders ++ [name] := Path.below_inj (p := ⟨[], []⟩) same
    rw [← (List.append_inj' parts rfl).1] at kept
    exact absurd (kept _ List.mem_cons_self) (by decide)
  · intro inside
    obtain ⟨names, same, folders, name, entry, -, there, -⟩ := (below _).mp inside
    rw [← Path.below_inj (p := ⟨[], []⟩) same] at there
    cases there

/-- In a folder at the top, a name that is too long cannot be asked about. -/
private theorem find_longName {entries : List (Text × FileNode)} {name : Text}
    (clean : '\x00' ∉ name) (long : IsLongName name) (fits : byteLength name < maxPathBytes) :
    FileSystem.find ⟨.folder entries, [], []⟩ ⟨[], [name]⟩ = .error .nameTooLong := by
  have noDot : name ≠ ['.'] := by
    intro dot
    rw [dot] at long
    exact absurd long (show ¬ maxNameBytes < 1 by decide)
  have noDots : name ≠ ['.', '.'] := by
    intro dots
    rw [dots] at long
    exact absurd long (show ¬ maxNameBytes < 2 by decide)
  have noNull : Path.hasNull ⟨[], [name]⟩ = false := by simp [Path.hasNull, clean]
  have text : Path.text ⟨[], [name]⟩ = name := by simp [Path.text, Text.joined]
  have stopped : stretch (.folder entries) [] [name] = .failed .nameTooLong := by
    simp [stretch, FileNode.at?, noDot, noDots, show maxNameBytes < byteLength name from long]
  have failed : follow (.folder entries) maxLinks [] [name] = .error .nameTooLong :=
    follow_of_failed stopped
  rw [find, noNull, text, if_neg (by decide), if_neg (Nat.not_le.mpr fits)]
  simp [start, Path.isAbsolute, failed]

private theorem byteLength_letters (count : Nat) :
    byteLength (List.replicate count 'n') = count := by
  induction count with
  | zero => rfl
  | succ count ih =>
      show (String.utf8EncodeChar 'n' ++ Utf8.encode (List.replicate count 'n')).length = _
      rw [List.length_append]
      show 1 + byteLength (List.replicate count 'n') = _
      rw [ih, Nat.add_comm]

/-- A name that is too long stands for nothing, and yet the walk fails on it. -/
theorem long_name_stops_walk :
    ¬ ∀ (fs : FileSystem) (p : Path), fs.top.ListsOnce →
      (∀ place node, fs.find p ≠ .ok (place, node)) → fs.phpFiles [p] = .ok [] := by
  intro nothing
  have clean : '\x00' ∉ List.replicate 256 'n' := by
    rw [List.mem_replicate]
    decide
  have long : IsLongName (List.replicate 256 'n') := by
    rw [IsLongName, byteLength_letters]
    decide
  have fits : byteLength (List.replicate 256 'n') < maxPathBytes := by
    rw [byteLength_letters]
    decide
  have failed : FileSystem.find ⟨.folder [], [], []⟩ ⟨[], [List.replicate 256 'n']⟩ =
      .error .nameTooLong := find_longName clean long fits
  have once : (FileNode.folder []).ListsOnce := .folder List.nodup_nil (by simp)
  have walked := nothing ⟨.folder [], [], []⟩ ⟨[], [List.replicate 256 'n']⟩ once
    (fun place node there => by cases failed.symm.trans there)
  rw [phpFiles_tooLong List.mem_cons_self failed] at walked
  cases walked

end Example

end FileSystem

end PhpHooks
