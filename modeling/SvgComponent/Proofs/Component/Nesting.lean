/-
This file states the grammar of nested brackets and shows that the scan of brackets accepts exactly
its words.
-/

import Mathlib.Data.List.Forall2
import SvgComponent.Component.Check

namespace SvgComponent.Component.Check

/-- The brackets of each kind. -/
def pairs : List (Char × Char) :=
  [('(', ')'), ('[', ']'), ('\x7b', '\x7d')]

def isBracket (c : Char) : Bool :=
  pairs.any fun pair => c = pair.1 || c = pair.2

/-- The brackets of a text in their order. -/
def brackets (text : List Char) : List Char :=
  text.filter isBracket

theorem brackets_bracket {c : Char} (bracket : isBracket c = true) (text : List Char) :
    brackets (c :: text) = c :: brackets text :=
  List.filter_cons_of_pos bracket

theorem brackets_other {c : Char} (plain : isBracket c = false) (text : List Char) :
    brackets (c :: text) = brackets text :=
  List.filter_cons_of_neg (by simp [plain])

theorem brackets_append (first second : List Char) :
    brackets (first ++ second) = brackets first ++ brackets second :=
  List.filter_append first second

/-- Nothing is nested, and so are nested brackets in a pair with nested brackets after it. -/
inductive IsNested : List Char → Prop
  | empty : IsNested []
  | pair {opening closing : Char} {inner rest : List Char} (kind : (opening, closing) ∈ pairs)
      (within : IsNested inner) (after : IsNested rest) :
      IsNested (opening :: (inner ++ closing :: rest))

/-- Brackets are viable if others can complete them. -/
def IsViable (word : List Char) : Prop :=
  ∃ more, IsNested (word ++ more)

/-- The brackets that close others, in the order in which they have to. -/
def Close (opened closing : List Char) : Prop :=
  List.Forall₂ (fun bracket other => (bracket, other) ∈ pairs) opened closing

theorem isOpening_of_pair {opening closing : Char} (kind : (opening, closing) ∈ pairs) :
    isOpening opening = true ∧ isOpening closing = false ∧ opening? closing = some opening := by
  simp only [pairs, List.mem_cons, Prod.mk.injEq, List.not_mem_nil, or_false] at kind
  rcases kind with ⟨rfl, rfl⟩ | ⟨rfl, rfl⟩ | ⟨rfl, rfl⟩ <;> decide

theorem exists_pair {c : Char} (opens : isOpening c = true) : ∃ closing, (c, closing) ∈ pairs := by
  simp only [isOpening, Bool.or_eq_true, decide_eq_true_eq] at opens
  rcases opens with (rfl | rfl) | rfl
  · exact ⟨')', by decide⟩
  · exact ⟨']', by decide⟩
  · exact ⟨'\x7d', by decide⟩

theorem pair_of_opening? {c bracket : Char} (closes : opening? c = some bracket) :
    (bracket, c) ∈ pairs := by
  unfold opening? at closes
  split_ifs at closes with round square curly
  · obtain ⟨rfl, rfl⟩ := And.intro round (Option.some.inj closes)
    decide
  · obtain ⟨rfl, rfl⟩ := And.intro square (Option.some.inj closes)
    decide
  · obtain ⟨rfl, rfl⟩ := And.intro curly (Option.some.inj closes)
    decide

/-- Brackets are the characters that open or close. -/
theorem isBracket_iff (c : Char) :
    isBracket c = true ↔ isOpening c = true ∨ ∃ bracket, opening? c = some bracket := by
  constructor
  · intro bracket
    obtain ⟨pair, member, either⟩ := List.any_eq_true.mp bracket
    obtain ⟨opens, -, closes⟩ := isOpening_of_pair member
    rcases Bool.or_eq_true_iff.mp either with first | second
    · rw [of_decide_eq_true first]
      exact .inl opens
    · rw [of_decide_eq_true second]
      exact .inr ⟨pair.1, closes⟩
  · rintro (opens | ⟨bracket, closes⟩)
    · obtain ⟨closing, member⟩ := exists_pair opens
      exact List.any_eq_true.mpr ⟨_, member, by simp⟩
    · exact List.any_eq_true.mpr ⟨_, pair_of_opening? closes, by simp⟩

namespace IsNested

theorem append {first second : List Char} (front : IsNested first) (back : IsNested second) :
    IsNested (first ++ second) := by
  induction front with
  | empty => exact back
  | pair kind within after _ inductionHypothesis =>
      simpa using pair kind within inductionHypothesis

/-- Nested brackets may be put between nested ones. -/
theorem insert {front back inner : List Char} (around : IsNested (front ++ back))
    (within : IsNested inner) : IsNested (front ++ (inner ++ back)) := by
  generalize whole : front ++ back = word at around
  induction around generalizing front back with
  | empty =>
      obtain ⟨rfl, rfl⟩ := List.append_eq_nil_iff.mp whole
      simpa using within
  | @pair opening closing middle rest kind nested after innerHypothesis restHypothesis =>
      cases front with
      | nil =>
          obtain rfl : back = opening :: (middle ++ closing :: rest) := whole
          exact within.append (pair kind nested after)
      | cons c front =>
          obtain ⟨rfl, split⟩ := List.cons.inj whole
          -- The place is inside the first pair, at its end, or after it.
          rcases List.append_eq_append_iff.mp split with ⟨late, rfl, rfl⟩ | ⟨early, rfl, later⟩
          · have moved : IsNested (front ++ (inner ++ late)) := innerHypothesis rfl
            simpa using pair kind moved after
          · cases early with
            | nil =>
                obtain rfl : back = closing :: rest := later.symm
                simpa using pair kind (nested.append within) after
            | cons d early =>
                obtain ⟨rfl, rfl⟩ := List.cons.inj later
                have moved : IsNested (early ++ (inner ++ back)) := restHypothesis rfl
                simpa using pair kind nested moved

/-- Nested brackets come in pairs. -/
theorem length_even {word : List Char} (nested : IsNested word) : word.length % 2 = 0 := by
  induction nested with
  | empty => rfl
  | pair kind within after innerHypothesis restHypothesis =>
      simp only [List.length_cons, List.length_append]
      omega

end IsNested

theorem Close.mem {opened closing : List Char} (closes : Close opened closing) :
    ∀ c ∈ closing, ∃ opening, (opening, c) ∈ pairs := by
  induction closes with
  | nil => exact nofun
  | cons kind others inductionHypothesis =>
      exact List.forall_mem_cons.mpr ⟨⟨_, kind⟩, inductionHypothesis⟩

/-- Opened brackets with those that close them are nested. -/
theorem Close.isNested {opened closing : List Char} (closes : Close opened closing) :
    IsNested (opened.reverse ++ closing) := by
  induction closes with
  | nil => exact .empty
  | @cons bracket other opened closing kind others inductionHypothesis =>
      have single : IsNested [bracket, other] := .pair kind .empty .empty
      simpa using inductionHypothesis.insert single

/-- An opening bracket is scanned. -/
theorem scan_opening {c : Char} (opens : isOpening c = true) (opened text : List Char) :
    scan opened (c :: text) = scan (c :: opened) text := by
  rw [scan.eq_def]
  exact if_pos opens

theorem scan_other {c : Char} (plain : isBracket c = false) (opened text : List Char) :
    scan opened (c :: text) = scan opened text := by
  have neither := (isBracket_iff c).not.mp (by simp [plain])
  rw [not_or, not_exists] at neither
  have closes : opening? c = none := Option.eq_none_iff_forall_ne_some.mpr neither.2
  rw [scan.eq_def]
  simp [neither.1, closes]

theorem scan_closing {opening closing : Char} (kind : (opening, closing) ∈ pairs)
    (opened text : List Char) : scan (opening :: opened) (closing :: text) = scan opened text := by
  obtain ⟨-, other, closes⟩ := isOpening_of_pair kind
  rw [scan.eq_def]
  simp [other, closes]

/-- The brackets of a second text are scanned after those of the first. -/
theorem scan_append (opened first second : List Char) :
    scan opened (first ++ second) =
      (scan opened first).bind fun next => scan next second := by
  induction first generalizing opened with
  | nil => rfl
  | cons c first inductionHypothesis =>
      simp only [List.cons_append, scan]
      split
      · exact inductionHypothesis _
      · split
        · exact inductionHypothesis _
        · rfl
        · split
          · exact inductionHypothesis _
          · rfl

/-- A character is scanned if it is no bracket, opens a bracket, or closes the last one. -/
theorem scan_cons_cases {c : Char} {opened text next : List Char}
    (found : scan opened (c :: text) = .ok next) :
    (isBracket c = false ∧ scan opened text = .ok next) ∨
      (isOpening c = true ∧ scan (c :: opened) text = .ok next) ∨
      ∃ last others, opened = last :: others ∧ (last, c) ∈ pairs ∧ scan others text = .ok next := by
  by_cases opens : isOpening c = true
  · rw [scan_opening opens] at found
    exact .inr (.inl ⟨opens, found⟩)
  · cases closes : opening? c with
    | none =>
        have plain : isBracket c = false := by
          rw [← Bool.not_eq_true, isBracket_iff, closes]
          simp [opens]
        rw [scan_other plain] at found
        exact .inl ⟨plain, found⟩
    | some bracket =>
        rw [scan.eq_def] at found
        simp only [if_neg opens, closes] at found
        cases opened with
        | nil => contradiction
        | cons last others =>
            simp only at found
            split at found
            · case _ same =>
                subst same
                exact .inr (.inr ⟨last, others, rfl, pair_of_opening? closes, found⟩)
            · contradiction

/-- The brackets of a scanned text, those opened before it and those that close what it leaves open
are nested. -/
theorem isNested_of_scan {opened text next closing : List Char}
    (found : scan opened text = .ok next) (closes : Close next closing) :
    IsNested (opened.reverse ++ (brackets text ++ closing)) := by
  induction text generalizing opened with
  | nil =>
      obtain rfl := Except.ok.inj found
      exact closes.isNested
  | cons c text inductionHypothesis =>
      rcases scan_cons_cases found with
        ⟨plain, rest⟩ | ⟨opens, rest⟩ | ⟨last, others, rfl, kind, rest⟩
      · rw [brackets_other plain]
        exact inductionHypothesis rest
      · have bracket : isBracket c = true := (isBracket_iff c).mpr (.inl opens)
        rw [brackets_bracket bracket]
        simpa using inductionHypothesis rest
      · have bracket : isBracket c = true :=
          (isBracket_iff c).mpr (.inr ⟨last, (isOpening_of_pair kind).2.2⟩)
        have single : IsNested [last, c] := .pair kind .empty .empty
        rw [brackets_bracket bracket]
        simpa using (inductionHypothesis rest).insert single

/-- Nested brackets leave open what was open before them. -/
theorem IsNested.scan {word : List Char} (nested : IsNested word) (opened text : List Char) :
    Check.scan opened (word ++ text) = Check.scan opened text := by
  induction nested generalizing opened text with
  | empty => rfl
  | @pair opening closing inner rest kind within after innerHypothesis restHypothesis =>
      have opens := (isOpening_of_pair kind).1
      rw [List.cons_append, scan_opening opens, List.append_assoc, innerHypothesis,
        List.cons_append, scan_closing kind, restHypothesis]

/-- Only brackets matter to a scan. -/
theorem scan_brackets (opened text : List Char) :
    scan opened (brackets text) = scan opened text := by
  induction text generalizing opened with
  | nil => rfl
  | cons c text inductionHypothesis =>
      cases bracket : isBracket c with
      | false =>
          rw [brackets_other bracket, scan_other bracket, inductionHypothesis]
      | true =>
          rw [brackets_bracket bracket, scan.eq_def, scan.eq_def opened (c :: text)]
          simp only [inductionHypothesis]

/-- A scan closes all brackets exactly if they are nested. -/
theorem scan_eq_nil_iff (text : List Char) : scan [] text = .ok [] ↔ IsNested (brackets text) := by
  constructor
  · intro found
    simpa using isNested_of_scan found .nil
  · intro nested
    rw [← scan_brackets, ← List.append_nil (brackets text), nested.scan]
    rfl

/-- A scan leaves opening brackets only. -/
theorem scan_opens {opened text next : List Char} (found : scan opened text = .ok next)
    (opens : ∀ c ∈ opened, isOpening c = true) : ∀ c ∈ next, isOpening c = true := by
  induction text generalizing opened with
  | nil =>
      obtain rfl := Except.ok.inj found
      exact opens
  | cons c text inductionHypothesis =>
      rcases scan_cons_cases found with ⟨-, rest⟩ | ⟨here, rest⟩ | ⟨last, others, rfl, -, rest⟩
      · exact inductionHypothesis rest opens
      · exact inductionHypothesis rest (List.forall_mem_cons.mpr ⟨here, opens⟩)
      · exact inductionHypothesis rest (List.forall_mem_cons.mp opens).2

/-- Opening brackets can be closed. -/
theorem exists_close {opened : List Char} (opens : ∀ c ∈ opened, isOpening c = true) :
    ∃ closing, Close opened closing := by
  induction opened with
  | nil => exact ⟨[], .nil⟩
  | cons c opened inductionHypothesis =>
      obtain ⟨here, later⟩ := List.forall_mem_cons.mp opens
      obtain ⟨other, kind⟩ := exists_pair here
      obtain ⟨closing, closes⟩ := inductionHypothesis later
      exact ⟨other :: closing, .cons kind closes⟩

/-- A scan that succeeds can be completed by as many closing brackets as it leaves open. -/
theorem exists_completion {text opened : List Char} (found : scan [] text = .ok opened) :
    ∃ closing, Close opened closing ∧ IsNested (brackets text ++ closing) := by
  obtain ⟨closing, closes⟩ := exists_close (scan_opens found (by simp))
  exact ⟨closing, closes, by simpa using isNested_of_scan found closes⟩

/-- The first part of nested brackets can be scanned. -/
theorem scan_of_isNested_append {text more : List Char}
    (nested : IsNested (brackets text ++ more)) :
    ∃ opened, scan [] text = .ok opened ∧ scan opened more = .ok [] := by
  have whole := nested.scan [] []
  rw [List.append_nil, scan_append, scan_brackets] at whole
  cases found : scan [] text with
  | error fault => simp [found, Except.bind, scan] at whole
  | ok opened =>
      rw [found] at whole
      exact ⟨opened, rfl, whole⟩

/-- A scan succeeds exactly on viable brackets. -/
theorem isViable_iff (text : List Char) :
    IsViable (brackets text) ↔ ∃ opened, scan [] text = .ok opened := by
  constructor
  · rintro ⟨more, nested⟩
    obtain ⟨opened, found, -⟩ := scan_of_isNested_append nested
    exact ⟨opened, found⟩
  · rintro ⟨opened, found⟩
    obtain ⟨closing, -, nested⟩ := exists_completion found
    exact ⟨closing, nested⟩

/-- As many closing brackets as there are open ones have to follow. -/
theorem length_of_scan_closing {opened closing : List Char}
    (closes : ∀ c ∈ closing, ∃ opening, (opening, c) ∈ pairs)
    (found : scan opened closing = .ok []) : opened.length = closing.length := by
  induction closing generalizing opened with
  | nil =>
      obtain rfl := Except.ok.inj found
      rfl
  | cons c closing inductionHypothesis =>
      obtain ⟨⟨opening, here⟩, later⟩ := List.forall_mem_cons.mp closes
      obtain ⟨-, notOpening, closer⟩ := isOpening_of_pair here
      rcases scan_cons_cases found with ⟨plain, -⟩ | ⟨opens, -⟩ | ⟨last, others, rfl, -, rest⟩
      · rw [(isBracket_iff c).mpr (.inr ⟨opening, closer⟩)] at plain
        contradiction
      · rw [notOpening] at opens
        contradiction
      · rw [List.length_cons, List.length_cons, inductionHypothesis later rest]

/-- A scan leaves as many brackets open as closing ones are missing. -/
theorem scan_leaves_iff (text : List Char) (count : Nat) :
    (∃ opened, scan [] text = .ok opened ∧ opened.length = count) ↔
      ∃ closing, closing.length = count ∧ (∀ c ∈ closing, ∃ opening, (opening, c) ∈ pairs) ∧
        IsNested (brackets text ++ closing) := by
  constructor
  · rintro ⟨opened, found, rfl⟩
    obtain ⟨closing, closes, nested⟩ := exists_completion found
    exact ⟨closing, closes.length_eq.symm, closes.mem, nested⟩
  · rintro ⟨closing, rfl, closes, nested⟩
    obtain ⟨opened, found, rest⟩ := scan_of_isNested_append nested
    exact ⟨opened, found, length_of_scan_closing closes rest⟩

/-- A character at which a scan fails is reported. -/
theorem scan_single_error {opened : List Char} {c : Char} {fault : Fault}
    (failed : scan opened [c] = .error fault) : fault = .unbalanced c := by
  rw [scan.eq_def] at failed
  simp only [scan] at failed
  split at failed
  · contradiction
  · split at failed
    · contradiction
    · exact (Except.error.inj failed).symm
    · split at failed
      · contradiction
      · exact (Except.error.inj failed).symm

/-- A scan fails at the first character that cannot follow those before it. -/
theorem scan_error_iff (opened text : List Char) (fault : Fault) :
    scan opened text = .error fault ↔ ∃ front c back next, text = front ++ c :: back ∧
      scan opened front = .ok next ∧ scan next [c] = .error fault := by
  constructor
  · intro failed
    induction text generalizing opened with
    | nil => contradiction
    | cons c text inductionHypothesis =>
        rw [← List.singleton_append, scan_append] at failed
        cases first : scan opened [c] with
        | error other =>
            rw [first] at failed
            obtain rfl := Except.error.inj failed
            exact ⟨[], c, text, opened, rfl, rfl, first⟩
        | ok middle =>
            rw [first] at failed
            obtain ⟨front, d, back, next, rfl, found, last⟩ := inductionHypothesis middle failed
            refine ⟨c :: front, d, back, next, rfl, ?_, last⟩
            rw [← List.singleton_append, scan_append, first]
            exact found
  · rintro ⟨front, c, back, next, rfl, found, failed⟩
    rw [scan_append, found, ← List.singleton_append]
    change scan next ([c] ++ back) = _
    rw [scan_append, failed]
    rfl

/-- A scan fails only at a bracket. -/
theorem scan_error {opened text : List Char} {fault : Fault}
    (failed : scan opened text = .error fault) : ∃ c, fault = .unbalanced c := by
  obtain ⟨front, c, back, next, -, -, last⟩ := (scan_error_iff opened text fault).mp failed
  exact ⟨c, scan_single_error last⟩

/-- A scan reports the first bracket that makes the brackets up to it not viable. -/
theorem scan_unbalanced_iff (text : List Char) (bracket : Char) :
    scan [] text = .error (.unbalanced bracket) ↔ ∃ front back,
      brackets text = front ++ bracket :: back ∧ IsViable front ∧
        ¬ IsViable (front ++ [bracket]) := by
  have whole {front back : List Char} (split : brackets text = front ++ back) :
      brackets front = front := by
    refine List.filter_eq_self.mpr fun c member => ?_
    have inside : c ∈ brackets text := split ▸ List.mem_append_left back member
    exact (List.mem_filter.mp inside).2
  rw [← scan_brackets, scan_error_iff]
  constructor
  · rintro ⟨front, c, back, next, split, found, failed⟩
    obtain rfl := Fault.unbalanced.inj (scan_single_error failed)
    have longer : brackets text = (front ++ [bracket]) ++ back := by simpa using split
    refine ⟨front, back, split, ?_, ?_⟩
    · rw [← whole split, isViable_iff]
      exact ⟨next, found⟩
    · rw [← whole longer, isViable_iff, scan_append, found]
      rintro ⟨opened, later⟩
      exact nomatch failed.symm.trans later
  · rintro ⟨front, back, split, viable, stuck⟩
    have longer : brackets text = (front ++ [bracket]) ++ back := by simpa using split
    rw [← whole split, isViable_iff] at viable
    rw [← whole longer, isViable_iff] at stuck
    obtain ⟨next, found⟩ := viable
    refine ⟨front, bracket, back, next, split, found, ?_⟩
    rw [scan_append, found] at stuck
    cases last : scan next [bracket] with
    | error fault => rw [scan_single_error last]
    | ok opened => exact absurd ⟨opened, last⟩ stuck

end SvgComponent.Component.Check
