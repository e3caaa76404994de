/-
This file shows what making directories changes in a file tree.
-/

import Mathlib.Data.List.Basic
import SvgComponent.FileTree
import SvgComponent.Proofs.Mapping

namespace SvgComponent.FileTree

theorem entryAt?_root (tree : FileTree) : tree.entryAt? [] = some .directory := if_pos rfl

/-- The root is no place for a new entry. -/
theorem ne_root_of_entryAt?_ne {tree : FileTree} {place : Path}
    (other : tree.entryAt? place ≠ some .directory) : place ≠ [] := by
  rintro rfl
  exact other tree.entryAt?_root

theorem entryAt?_assign (tree : FileTree) {place : Path} (named : place ≠ []) (entry : Entry)
    (spot : Path) :
    entryAt? (tree.assign place entry) spot =
      if place = spot then some entry else tree.entryAt? spot := by
  by_cases root : spot = []
  · subst root
    rw [entryAt?_root, entryAt?_root, if_neg named]
  · rw [entryAt?, entryAt?, if_neg root, if_neg root, Mapping.valueAt?_assign]

theorem valueAt?_of_absent {tree : FileTree} {place : Path} (absent : tree.entryAt? place = none) :
    tree.valueAt? place = none := by
  have named : place ≠ [] := ne_root_of_entryAt?_ne (by rw [absent]; exact nofun)
  rwa [entryAt?, if_neg named] at absent

theorem isDirectory_iff (tree : FileTree) (place : Path) :
    tree.isDirectory place = true ↔ tree.entryAt? place = some .directory := by
  simp [isDirectory]

theorem isPresent_iff (tree : FileTree) (place : Path) :
    tree.isPresent place = true ↔ tree.entryAt? place ≠ none := by
  simp [isPresent, Option.isSome_iff_ne_none]

/-- Every directory of one tree is a directory of another. -/
def Retains (before after : FileTree) : Prop :=
  ∀ place, before.entryAt? place = some .directory → after.entryAt? place = some .directory

/-- Entries stay as they are, and new ones are directories in certain places. -/
def Extends (before after : FileTree) (allowed : Path → Prop) : Prop :=
  ∀ place, after.entryAt? place = before.entryAt? place ∨
    before.entryAt? place = none ∧ after.entryAt? place = some .directory ∧ allowed place

namespace Extends

variable {before middle after : FileTree} {allowed : Path → Prop}

theorem refl (tree : FileTree) (allowed : Path → Prop) : Extends tree tree allowed :=
  fun _ => .inl rfl

theorem mono {wider : Path → Prop} (grown : Extends before after allowed)
    (implied : ∀ place, allowed place → wider place) : Extends before after wider := by
  intro place
  rcases grown place with same | ⟨absent, made, fine⟩
  · exact .inl same
  · exact .inr ⟨absent, made, implied place fine⟩

theorem trans (first : Extends before middle allowed) (second : Extends middle after allowed) :
    Extends before after allowed := by
  intro place
  rcases second place with same | ⟨absent, made, fine⟩
  · rw [same]
    exact first place
  · rcases first place with same | ⟨-, earlier, -⟩
    · exact .inr ⟨same ▸ absent, made, fine⟩
    · rw [earlier] at absent
      contradiction

/-- A new directory in an allowed place is an extension. -/
theorem assign {tree : FileTree} {place : Path} (absent : tree.entryAt? place = none)
    (fine : allowed place) : Extends tree (tree.assign place .directory) allowed := by
  have named : place ≠ [] := ne_root_of_entryAt?_ne (by rw [absent]; exact nofun)
  intro spot
  rw [entryAt?_assign tree named]
  by_cases here : place = spot
  · subst here
    exact .inr ⟨absent, if_pos rfl, fine⟩
  · exact .inl (if_neg here)

/-- No entry is lost. -/
theorem keeps (grown : Extends before after allowed) {place : Path} {entry : Entry}
    (present : before.entryAt? place = some entry) : after.entryAt? place = some entry := by
  rcases grown place with same | ⟨absent, -, -⟩
  · rw [same, present]
  · rw [absent] at present
    contradiction

/-- No file is new. -/
theorem file (grown : Extends before after allowed) {place : Path} {content : ByteArray}
    (present : after.entryAt? place = some (.file content)) :
    before.entryAt? place = some (.file content) := by
  rcases grown place with same | ⟨-, made, -⟩
  · rw [← same, present]
  · rw [made] at present
    exact nomatch present

theorem retains (grown : Extends before after allowed) : Retains before after :=
  fun _ present => grown.keeps present

end Extends

section Following

variable {before after tree : FileTree}

/-- A name that leads somewhere starts at a directory. -/
theorem step_start {place next : Path} {name : String} (led : tree.step place name = .ok next) :
    tree.entryAt? place = some .directory := by
  rw [step] at led
  split at led
  · contradiction
  · contradiction
  · assumption

theorem step_name {place : Path} {name : String} (start : tree.entryAt? place = some .directory)
    (inner : name ≠ "..") (short : name.utf8ByteSize ≤ nameLimit) :
    tree.step place name = .ok (place ++ [name]) := by
  simp only [step, start, if_neg inner, if_neg (Nat.not_lt.mpr short)]

/-- Other entries than directories have no part in where a name leads. -/
theorem step_mono (retained : Retains before after) {place next : Path} {name : String}
    (led : before.step place name = .ok next) : after.step place name = .ok next := by
  have start := step_start led
  simpa only [step, start, retained place start] using led

theorem follow_mono (retained : Retains before after) {names : List String} {place final : Path}
    (led : names.foldlM before.step place = .ok final) :
    names.foldlM after.step place = .ok final := by
  induction names generalizing place with
  | nil => exact led
  | cons name names inductionHypothesis =>
      rw [List.foldlM_cons] at led ⊢
      cases reached : before.step place name with
      | error obstacle =>
          rw [reached] at led
          contradiction
      | ok next =>
          rw [reached] at led
          rw [step_mono retained reached]
          exact inductionHypothesis led

theorem locate_eq_ok {path place : Path} :
    tree.locate path = .ok place ↔ path.isValid = true ∧ path.foldlM tree.step [] = .ok place := by
  rw [locate]
  split <;> simp [*]

theorem locate_mono (retained : Retains before after) {path place : Path}
    (led : before.locate path = .ok place) : after.locate path = .ok place := by
  rw [locate_eq_ok] at led ⊢
  exact ⟨led.1, follow_mono retained led.2⟩

theorem isValid_of_isPrefix {front path : Path} (within : front <+: path)
    (valid : path.isValid = true) : front.isValid = true := by
  rw [Path.isValid, List.all_eq_true] at valid ⊢
  exact fun name member => valid name (within.subset member)

/-- A place is on the way if some of the names, from the first on, lead to it. -/
def IsPassed (tree : FileTree) (place : Path) (names : List String) (spot : Path) : Prop :=
  ∃ front, front <+: names ∧ front.foldlM tree.step place = .ok spot

theorem isPassed_next {place next : Path} {name : String} (names : List String)
    (led : tree.step place name = .ok next) : tree.IsPassed place (name :: names) next := by
  refine ⟨[name], ⟨names, rfl⟩, ?_⟩
  rw [List.foldlM_cons, led]
  rfl

theorem isPassed_cons {place next spot : Path} {name : String} {names : List String}
    (led : tree.step place name = .ok next) (passed : tree.IsPassed next names spot) :
    tree.IsPassed place (name :: names) spot := by
  obtain ⟨front, within, reached⟩ := passed
  refine ⟨name :: front, List.cons_prefix_cons.mpr ⟨rfl, within⟩, ?_⟩
  rw [List.foldlM_cons, led]
  exact reached

/-- A place that is passed later is the next one or is passed from there. -/
theorem isPassed_cases {place spot : Path} {name : String} {names : List String}
    (passed : tree.IsPassed place (name :: names) spot) :
    spot = place ∨ ∃ next, tree.step place name = .ok next ∧ tree.IsPassed next names spot := by
  obtain ⟨front, within, reached⟩ := passed
  cases front with
  | nil => exact .inl (Except.ok.inj reached).symm
  | cons other front =>
      obtain ⟨rfl, rest⟩ := List.cons_prefix_cons.mp within
      rw [List.foldlM_cons] at reached
      cases led : tree.step place other with
      | error obstacle =>
          rw [led] at reached
          contradiction
      | ok next =>
          rw [led] at reached
          exact .inr ⟨next, rfl, front, rest, reached⟩

/-- Nothing is passed after a place where there is no directory. -/
theorem eq_of_isPassed {place spot : Path} {names : List String}
    (passed : tree.IsPassed place names spot) (blocked : tree.entryAt? place ≠ some .directory) :
    spot = place := by
  cases names with
  | nil =>
      obtain ⟨front, within, reached⟩ := passed
      rw [List.prefix_nil.mp within] at reached
      exact (Except.ok.inj reached).symm
  | cons name names =>
      rcases isPassed_cases passed with same | ⟨next, led, -⟩
      · exact same
      · exact absurd (step_start led) blocked

end Following

/-- Missing directories are made on the way, and nothing else changes. -/
theorem makeFrom_extends (tree : FileTree) (place : Path) (names : List String) :
    Extends tree (tree.makeFrom place names).1
      ((tree.makeFrom place names).1.IsPassed place names) := by
  induction names generalizing tree place with
  | nil => exact Extends.refl _ _
  | cons name names inductionHypothesis =>
      cases led : tree.step place name with
      | error obstacle =>
          simp only [makeFrom, led]
          exact Extends.refl _ _
      | ok next =>
          cases there : tree.entryAt? next with
          | some entry =>
              cases entry with
              | file content =>
                  simp only [makeFrom, led, there]
                  exact Extends.refl _ _
              | directory =>
                  simp only [makeFrom, led, there]
                  have later := inductionHypothesis tree next
                  exact later.mono fun spot => isPassed_cons (step_mono later.retains led)
          | none =>
              simp only [makeFrom, led, there]
              have later := inductionHypothesis (tree.assign next .directory) next
              have made : Extends tree (tree.assign next .directory) (· = next) :=
                Extends.assign there rfl
              have again := step_mono later.retains (step_mono made.retains led)
              refine Extends.trans (made.mono ?_) (later.mono fun spot => isPassed_cons again)
              rintro spot rfl
              exact isPassed_next names again

/-- The whole way leads to a directory once its directories are made. -/
theorem makeFrom_reaches {tree after : FileTree} {place final : Path} {names : List String}
    (start : tree.entryAt? place = some .directory)
    (made : tree.makeFrom place names = (after, .ok final)) :
    names.foldlM after.step place = .ok final ∧ after.entryAt? final = some .directory := by
  induction names generalizing tree place with
  | nil =>
      obtain ⟨rfl, same⟩ := Prod.mk.inj made
      rw [← Except.ok.inj same]
      exact ⟨rfl, start⟩
  | cons name names inductionHypothesis =>
      have grown := makeFrom_extends tree place (name :: names)
      rw [made] at grown
      rw [makeFrom] at made
      cases led : tree.step place name with
      | error obstacle => simp [led] at made
      | ok next =>
          rw [List.foldlM_cons, step_mono grown.retains led]
          cases there : tree.entryAt? next with
          | some entry =>
              cases entry with
              | file content => simp [led, there] at made
              | directory =>
                  simp only [led, there] at made
                  exact inductionHypothesis there made
          | none =>
              have named : next ≠ [] := ne_root_of_entryAt?_ne (by rw [there]; exact nofun)
              simp only [led, there] at made
              refine inductionHypothesis ?_ made
              rw [entryAt?_assign tree named, if_pos rfl]

/-- A file on the way stops the making before anything is made. -/
theorem makeFrom_blocked {tree : FileTree} {place spot : Path} {names : List String}
    {content : ByteArray} (start : tree.entryAt? place = some .directory)
    (passed : tree.IsPassed place names spot)
    (blocked : tree.entryAt? spot = some (.file content)) :
    tree.makeFrom place names = (tree, .error .occupied) := by
  induction names generalizing place with
  | nil =>
      obtain ⟨front, within, reached⟩ := passed
      rw [List.prefix_nil.mp within] at reached
      rw [← Except.ok.inj reached, start] at blocked
      exact nomatch blocked
  | cons name names inductionHypothesis =>
      rcases isPassed_cases passed with rfl | ⟨next, led, later⟩
      · rw [start] at blocked
        exact nomatch blocked
      · simp only [makeFrom, led]
        cases there : tree.entryAt? next with
        | some entry =>
            cases entry with
            | file content => rfl
            | directory => exact inductionHypothesis there later
        | none =>
            rw [eq_of_isPassed later (by rw [there]; exact nofun), there] at blocked
            contradiction

section Directories

variable {tree prepared : FileTree} {path : Path}

/-- Either nothing is made or the way is followed from the root. -/
theorem makeDirectories_cases (tree : FileTree) (path : Path) :
    (∃ obstacle, tree.makeDirectories path = (tree, .error obstacle)) ∨
      path.isValid = true ∧ tree.makeDirectories path = tree.makeFrom [] path := by
  by_cases valid : path.isValid = true
  · rw [makeDirectories]
    split
    · exact .inr ⟨valid, rfl⟩
    · exact .inr ⟨valid, rfl⟩
    · exact .inl ⟨_, rfl⟩
  · refine .inl ⟨.invalidName, ?_⟩
    rw [makeDirectories, locate, if_neg valid]

/-- A place is an ancestor if the path passes through it before its last name. -/
def IsAncestor (tree : FileTree) (path place : Path) : Prop :=
  ∃ front, front <+: path.dropLast ∧ tree.locate front = .ok place

theorem makeDirectories_extends (tree : FileTree) (path : Path) :
    Extends tree (tree.makeDirectories path.dropLast).1
      ((tree.makeDirectories path.dropLast).1.IsAncestor path) := by
  rcases makeDirectories_cases tree path.dropLast with ⟨obstacle, stopped⟩ | ⟨valid, followed⟩
  · rw [stopped]
    exact Extends.refl _ _
  · rw [followed]
    refine (makeFrom_extends tree [] path.dropLast).mono ?_
    rintro spot ⟨front, within, reached⟩
    exact ⟨front, within, locate_eq_ok.mpr ⟨isValid_of_isPrefix within valid, reached⟩⟩

theorem makeDirectories_reaches {directory : Path}
    (made : tree.makeDirectories path = (prepared, .ok directory)) :
    prepared.locate path = .ok directory ∧ prepared.entryAt? directory = some .directory := by
  rcases makeDirectories_cases tree path with ⟨obstacle, stopped⟩ | ⟨valid, followed⟩
  · simp [stopped] at made
  · rw [followed] at made
    obtain ⟨reached, there⟩ := makeFrom_reaches tree.entryAt?_root made
    exact ⟨locate_eq_ok.mpr ⟨valid, reached⟩, there⟩

/-- Nothing is made if an ancestor is a file. -/
theorem makeDirectories_blocked {spot : Path} {content : ByteArray}
    (ancestor : tree.IsAncestor path spot) (blocked : tree.entryAt? spot = some (.file content)) :
    ∃ obstacle, tree.makeDirectories path.dropLast = (tree, .error obstacle) := by
  obtain ⟨front, within, located⟩ := ancestor
  rcases makeDirectories_cases tree path.dropLast with stopped | ⟨-, followed⟩
  · exact stopped
  · refine ⟨.occupied, followed.trans (makeFrom_blocked tree.entryAt?_root ?_ blocked)⟩
    exact ⟨front, within, (locate_eq_ok.mp located).2⟩

end Directories

end SvgComponent.FileTree
