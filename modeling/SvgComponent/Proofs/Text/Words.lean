/-
This file shows that a text whose blank runs are condensed and whose ends are trimmed consists of
its words with single spaces between them.
-/

import SvgComponent.Proofs.Text.Scan

namespace SvgComponent.Text

/-- The words of a text are the visible pieces between its blank characters. -/
def words (text : List Char) : List (List Char) :=
  (split isBlank text).filter fun piece => !piece.isEmpty

/-- Words with one space between them. -/
def joined (words : List (List Char)) : List Char :=
  [' '].intercalate words

/-- The space that is left of blank characters in front of a text. -/
def leading : List Char → List Char
  | [] => []
  | c :: _ => if isBlank c then [' '] else []

theorem exists_split (isSeparator : Char → Bool) (text : List Char) :
    ∃ piece pieces, split isSeparator text = piece :: pieces := by
  cases text with
  | nil => exact ⟨_, _, rfl⟩
  | cons c rest =>
      rw [split]
      split
      · exact ⟨_, _, rfl⟩
      · split <;> exact ⟨_, _, rfl⟩

/-- Blank characters belong to no word. -/
theorem words_blank {c : Char} (blank : isBlank c = true) (rest : List Char) :
    words (c :: rest) = words rest := by
  simp [words, split, blank]

/-- A visible character in front of a blank one, or at the end, is a word. -/
theorem words_single {c : Char} (visible : isBlank c = false) {rest : List Char}
    (ends : ∀ d, rest.head? = some d → isBlank d = true) :
    words (c :: rest) = [c] :: words rest := by
  cases rest with
  | nil => simp [words, split, visible]
  | cons d rest => simp [words, split, visible, ends d rfl]

/-- A visible character belongs to the word that begins after it. -/
theorem words_longer {c d : Char} (visible : isBlank c = false) (next : isBlank d = false)
    (rest : List Char) :
    ∃ word others, words (d :: rest) = word :: others ∧
      words (c :: d :: rest) = (c :: word) :: others := by
  obtain ⟨piece, pieces, whole⟩ := exists_split isBlank rest
  exact ⟨d :: piece, pieces.filter fun piece => !piece.isEmpty,
    by simp [words, split, next, whole], by simp [words, split, visible, next, whole]⟩

theorem condense_visible {c : Char} (visible : isBlank c = false) (rest : List Char) :
    condense (c :: rest) = c :: condense rest := by
  simp [condense, visible]

/-- Only one space is left of neighbouring blank characters. -/
theorem condense_again {c d : Char} (blank : isBlank c = true) (next : isBlank d = true)
    (rest : List Char) : condense (c :: d :: rest) = condense (d :: rest) := by
  have spaced : ∃ tail, condense (d :: rest) = ' ' :: tail := by
    rw [condense, if_pos next]
    split <;> exact ⟨_, rfl⟩
  obtain ⟨tail, spaced⟩ := spaced
  rw [condense, if_pos blank, spaced]
  rfl

/-- The last blank character before a visible one leaves a space. -/
theorem condense_last {c d : Char} (blank : isBlank c = true) (next : isBlank d = false)
    (rest : List Char) : condense (c :: d :: rest) = ' ' :: condense (d :: rest) := by
  have other : d ≠ ' ' := by
    rintro rfl
    contradiction
  rw [condense, if_pos blank, condense_visible next]
  split
  · case _ same => exact absurd (List.cons.inj same).1 other
  · rfl

/-- A condensed text has no blank characters other than spaces. -/
theorem eq_space_of_mem_condense {text : List Char} {c : Char} (member : c ∈ condense text)
    (blank : isBlank c = true) : c = ' ' := by
  induction text with
  | nil => contradiction
  | cons d rest inductionHypothesis =>
      rw [condense] at member
      split at member
      · split at member
        · case _ tail spaced =>
            rw [← spaced] at member
            exact inductionHypothesis member
        · rcases List.mem_cons.mp member with rfl | later
          · rfl
          · exact inductionHypothesis later
      · case _ visible =>
          rcases List.mem_cons.mp member with rfl | later
          · contradiction
          · exact inductionHypothesis later

theorem joined_cons_cons (word next : List Char) (others : List (List Char)) :
    joined (word :: next :: others) = word ++ ' ' :: joined (next :: others) := by
  simp [joined, List.intercalate_cons_cons]

theorem joined_longer (c : Char) (word : List Char) (others : List (List Char)) :
    joined ((c :: word) :: others) = c :: joined (word :: others) := by
  cases others with
  | nil => rfl
  | cons next others => rw [joined_cons_cons, joined_cons_cons, List.cons_append]

/-- A condensed text has a space in front of its words and one after them at most. -/
theorem exists_condensed (text : List Char) :
    ∃ trailing, condense text = leading text ++ (joined (words text) ++ trailing) ∧
      isBlankText trailing = true ∧ (words text = [] → trailing = []) := by
  induction text with
  | nil => exact ⟨[], rfl, rfl, fun _ => rfl⟩
  | cons c rest inductionHypothesis =>
      obtain ⟨trailing, whole, blankTrailing, nothing⟩ := inductionHypothesis
      cases blank : isBlank c with
      | true =>
          refine ⟨trailing, ?_, blankTrailing, ?_⟩
          · rw [leading, if_pos blank, words_blank blank]
            cases rest with
            | nil =>
                obtain rfl := nothing rfl
                rw [condense, if_pos blank]
                rfl
            | cons d rest =>
                cases next : isBlank d with
                | true => rw [condense_again blank next, whole, leading, if_pos next]
                | false =>
                    rw [condense_last blank next, whole, leading, next]
                    rfl
          · rwa [words_blank blank]
      | false =>
          rw [leading, condense_visible blank, whole]
          cases rest with
          | nil =>
              obtain rfl := nothing rfl
              have single : words [c] = [[c]] := words_single blank nofun
              exact ⟨[], by rw [single, blank]; rfl, rfl, fun _ => rfl⟩
          | cons d rest =>
              cases next : isBlank d with
              | true =>
                  rw [words_single blank (by simpa using next), leading, if_pos next, blank]
                  cases others : words (d :: rest) with
                  | nil =>
                      obtain rfl := nothing others
                      exact ⟨[' '], rfl, by decide, nofun⟩
                  | cons word others =>
                      refine ⟨trailing, ?_, blankTrailing, nofun⟩
                      rw [joined_cons_cons]
                      rfl
              | false =>
                  obtain ⟨word, others, before, after⟩ := words_longer blank next rest
                  refine ⟨trailing, ?_, blankTrailing, ?_⟩
                  · rw [after, before, joined_longer, leading, next]
                    simp [blank]
                  · rw [after]
                    exact nofun

/-- A word has a character and no blank one. -/
def IsVisibleWord (word : List Char) : Prop :=
  word ≠ [] ∧ ∀ c ∈ word, isBlank c = false

theorem words_visible (text : List Char) : ∀ word ∈ words text, IsVisibleWord word := by
  induction text with
  | nil => exact nofun
  | cons c rest inductionHypothesis =>
      cases blank : isBlank c with
      | true => rwa [words_blank blank]
      | false =>
          have single : IsVisibleWord [c] :=
            ⟨List.cons_ne_nil _ _, List.forall_mem_singleton.mpr blank⟩
          cases rest with
          | nil =>
              rw [words_single blank (by simp)]
              exact List.forall_mem_cons.mpr ⟨single, inductionHypothesis⟩
          | cons d rest =>
              cases next : isBlank d with
              | true =>
                  rw [words_single blank (by simpa using next)]
                  exact List.forall_mem_cons.mpr ⟨single, inductionHypothesis⟩
              | false =>
                  obtain ⟨word, others, before, after⟩ := words_longer blank next rest
                  rw [before, List.forall_mem_cons] at inductionHypothesis
                  rw [after, List.forall_mem_cons]
                  exact ⟨⟨List.cons_ne_nil _ _,
                    List.forall_mem_cons.mpr ⟨blank, inductionHypothesis.1.2⟩⟩,
                    inductionHypothesis.2⟩

/-- Joined words begin and end with a visible character. -/
theorem joined_head? {words : List (List Char)} (each : ∀ word ∈ words, IsVisibleWord word) :
    ∀ c, (joined words).head? = some c → isBlank c = false := by
  intro c first
  cases words with
  | nil => contradiction
  | cons word others =>
      obtain ⟨present, visible⟩ := each word List.mem_cons_self
      obtain ⟨d, rest, rfl⟩ := List.exists_cons_of_ne_nil present
      rw [joined_longer] at first
      obtain rfl := Option.some.inj first
      exact visible d List.mem_cons_self

theorem joined_getLast? {words : List (List Char)} (each : ∀ word ∈ words, IsVisibleWord word) :
    ∀ c, (joined words).getLast? = some c → isBlank c = false := by
  induction words with
  | nil => exact nofun
  | cons word others inductionHypothesis =>
      obtain ⟨here, later⟩ := List.forall_mem_cons.mp each
      intro c last
      cases others with
      | nil =>
          rw [joined, List.intercalate_singleton] at last
          exact here.2 c (List.mem_of_getLast? last)
      | cons next others =>
          obtain ⟨d, rest, rfl⟩ := List.exists_cons_of_ne_nil (later next List.mem_cons_self).1
          apply inductionHypothesis later
          rw [joined_cons_cons, joined_longer] at last
          rw [joined_longer]
          simpa using last

theorem dropBlank_self {text : List Char} (first : ∀ c, text.head? = some c → isBlank c = false) :
    dropBlank text = text := by
  cases text with
  | nil => rfl
  | cons c text => exact dropBlank_visible text (first c rfl)

/-- Trimming takes blank characters off both ends of a text whose ends are visible. -/
theorem trim_between {front text back : List Char} (blankFront : isBlankText front = true)
    (blankBack : isBlankText back = true)
    (first : ∀ c, text.head? = some c → isBlank c = false)
    (last : ∀ c, text.getLast? = some c → isBlank c = false) :
    trim (front ++ (text ++ back)) = text := by
  have reversed : isBlankText back.reverse = true := by simpa [isBlankText] using blankBack
  rw [trim, dropBlank_append _ blankFront]
  cases text with
  | nil =>
      have nothing : dropBlank back = [] := by
        rw [← List.append_nil back, dropBlank_append _ blankBack]
        rfl
      rw [List.nil_append, nothing]
      rfl
  | cons c text =>
      rw [List.cons_append, dropBlank_visible _ (first c rfl), ← List.cons_append,
        List.reverse_append, dropBlank_append _ reversed, dropBlank_self, List.reverse_reverse]
      rwa [List.head?_reverse]

/-- A blank text has no visible character. -/
theorem notMem_blank {spaces : List Char} (blank : isBlankText spaces = true) {c : Char}
    (visible : isBlank c = false) : c ∉ spaces := by
  intro member
  rw [List.all_eq_true.mp blank c member] at visible
  contradiction

/-- Trimming takes nothing but blank characters off both ends of a text. -/
theorem exists_trim (text : List Char) :
    ∃ front back, isBlankText front = true ∧ isBlankText back = true ∧
      text = front ++ (trim text ++ back) := by
  refine ⟨text.takeWhile isBlank, ((dropBlank text).reverse.takeWhile isBlank).reverse,
    List.all_takeWhile, ?_, ?_⟩
  · rw [isBlankText, List.all_reverse, List.all_takeWhile]
  · rw [trim, ← List.reverse_append, dropBlank.eq_def (dropBlank text).reverse,
      List.takeWhile_append_dropWhile, List.reverse_reverse, dropBlank,
      List.takeWhile_append_dropWhile]

theorem trim_subset (text : List Char) : trim text ⊆ text := by
  intro c member
  obtain ⟨front, back, -, -, whole⟩ := exists_trim text
  have kept := List.mem_append_right front (List.mem_append_left back member)
  rwa [← whole] at kept

/-- Blank characters around a text are trimmed with those at its ends. -/
theorem trim_blank_append {front back : List Char} (blankFront : isBlankText front = true)
    (blankBack : isBlankText back = true) (text : List Char) :
    trim (front ++ (text ++ back)) = trim text := by
  have reversed : isBlankText back.reverse = true := by simpa [isBlankText] using blankBack
  have ends : dropBlank back = [] := by
    rw [← List.append_nil back, dropBlank_append _ blankBack]
    rfl
  rw [trim, dropBlank_append _ blankFront, dropBlank.eq_def (text ++ back), List.dropWhile_append]
  split
  · case _ empty =>
      change (dropBlank (dropBlank back).reverse).reverse = _
      rw [ends, trim, dropBlank.eq_def text, List.isEmpty_iff.mp empty]
  · rw [List.reverse_append, dropBlank_append _ reversed]
    rfl

/-- The words of a text are what is left of it once it is condensed and trimmed. -/
theorem trim_condense (text : List Char) : trim (condense text) = joined (words text) := by
  obtain ⟨trailing, whole, blank, -⟩ := exists_condensed text
  have front : isBlankText (leading text) = true := by
    cases text with
    | nil => rfl
    | cons c text =>
        rw [leading]
        split <;> decide
  have each := words_visible text
  rw [whole, trim_between front blank (joined_head? each) (joined_getLast? each)]

end SvgComponent.Text
